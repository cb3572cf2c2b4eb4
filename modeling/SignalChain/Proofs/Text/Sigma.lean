import Mathlib.Data.List.Infix
import Mathlib.Data.List.TakeWhile
import SignalChain.Proofs.Text.Case

/-!
# The lowercase form of a piece of a text

A text is lowercased as a whole, and the form of a capital sigma depends on the
letters around it.  So the lowercase form of a text need not hold that of a
piece of it: it does where each sigma of the piece has the form that it has in
the piece alone.  What stands around a sigma reaches no further than the nearest
character that is not passed over, another sigma for one.
-/

namespace SignalChain

namespace Text

/-! ## The neighbours of a character -/

section Neighbours

variable {cs ds : List Char}

theorem meetsCased_append_of_ignorable (h : cs.all isCaseIgnorable = true) :
    meetsCased (cs ++ ds) = meetsCased ds := by
  unfold meetsCased
  rw [List.dropWhile_append_of_pos (List.all_eq_true.1 h)]

/-- Nothing is seen past a character that counts. -/
theorem meetsCased_append_of_not_ignorable (h : cs.all isCaseIgnorable = false) :
    meetsCased (cs ++ ds) = meetsCased cs := by
  unfold meetsCased
  have hcounts : (cs.dropWhile isCaseIgnorable).isEmpty = false := by
    rw [List.isEmpty_eq_false_iff, ne_eq, List.dropWhile_eq_nil_iff, ← List.all_eq_true, h]
    exact Bool.false_ne_true
  obtain ⟨c, rest, hdrop⟩ := List.exists_cons_of_ne_nil (List.isEmpty_eq_false_iff.1 hcounts)
  rw [List.dropWhile_append, hcounts, if_neg Bool.false_ne_true, hdrop, List.cons_append]

theorem meetsCased_of_ignorable (h : cs.all isCaseIgnorable = true) : meetsCased cs = false := by
  unfold meetsCased
  rw [List.dropWhile_eq_nil_iff.2 (List.all_eq_true.1 h)]

/-- A letter that is met is met in any longer text. -/
theorem meetsCased_append_of_meetsCased (h : meetsCased cs = true) :
    meetsCased (cs ++ ds) = true := by
  cases hall : cs.all isCaseIgnorable with
  | true => exact absurd h (by rw [meetsCased_of_ignorable hall]; exact Bool.false_ne_true)
  | false => rw [meetsCased_append_of_not_ignorable hall, h]

theorem isCaseIgnorable_sigma : isCaseIgnorable 'Σ' = false := by
  decide +kernel

/-- Nothing is seen past a sigma. -/
theorem meetsCased_append_sigma (cs ds : List Char) :
    meetsCased (cs ++ 'Σ' :: ds) = meetsCased (cs ++ ['Σ']) := by
  have hcounts : (cs ++ ['Σ']).all isCaseIgnorable = false := by
    simp [isCaseIgnorable_sigma]
  rw [List.append_cons, meetsCased_append_of_not_ignorable hcounts]

end Neighbours

/-! ## A piece between two texts -/

/-- The lowercase form of a piece that follows `before`, read backwards, and precedes `after`. -/
def lowercaseBetween (before : List Char) : List Char -> List Char -> List Char
  | [], _ => []
  | c :: rest, after =>
      (if c == 'Σ' then [lowercaseSigma before (rest ++ after)] else lowercaseChar c) ++
        lowercaseBetween (c :: before) rest after

theorem lowercaseAfter_append (before piece after : List Char) :
    lowercaseAfter before (piece ++ after) =
      lowercaseBetween before piece after ++ lowercaseAfter (piece.reverse ++ before) after := by
  induction piece generalizing before with
  | nil => rfl
  | cons c rest ih =>
      simp only [List.cons_append, lowercaseAfter, lowercaseBetween, ih, List.append_assoc,
        List.reverse_cons, List.nil_append]

theorem lowercaseBetween_nil_right (before piece : List Char) :
    lowercaseBetween before piece [] = lowercaseAfter before piece := by
  have h := lowercaseAfter_append before piece []
  simpa [lowercaseAfter] using h.symm

theorem lowercaseBetween_append (before piece piece' after : List Char) :
    lowercaseBetween before (piece ++ piece') after =
      lowercaseBetween before piece (piece' ++ after) ++
        lowercaseBetween (piece.reverse ++ before) piece' after := by
  induction piece generalizing before with
  | nil => rfl
  | cons c rest ih =>
      simp only [List.cons_append, lowercaseBetween, ih, List.append_assoc, List.reverse_cons,
        List.nil_append]

/-- What stands around a piece matters only for the sigmas in it. -/
theorem lowercaseBetween_congr {before before' piece after after' : List Char}
    (h : ∀ x y, piece = x ++ 'Σ' :: y →
      lowercaseSigma (x.reverse ++ before) (y ++ after) =
        lowercaseSigma (x.reverse ++ before') (y ++ after')) :
    lowercaseBetween before piece after = lowercaseBetween before' piece after' := by
  induction piece generalizing before before' with
  | nil => rfl
  | cons c rest ih =>
      have hrest : lowercaseBetween (c :: before) rest after =
          lowercaseBetween (c :: before') rest after' := by
        refine ih fun x y hsplit => ?_
        have hlonger := h (c :: x) y (by rw [hsplit, List.cons_append])
        simpa only [List.reverse_cons, List.append_assoc, List.singleton_append] using hlonger
      unfold lowercaseBetween
      rw [hrest]
      cases hc : c == 'Σ' with
      | false => simp
      | true =>
          have hsigma := h [] rest (by rw [eq_of_beq hc, List.nil_append])
          simp only [List.reverse_nil, List.nil_append] at hsigma
          simp [hsigma]

/-- What stands on one side of a sigma does not matter on the other side. -/
theorem lowercaseBetween_sigma (before x y after : List Char) :
    lowercaseBetween before (x ++ 'Σ' :: y) after =
      lowercaseBetween before x ['Σ'] ++
        lowercaseSigma (x.reverse ++ before) (y ++ after) :: lowercaseBetween ['Σ'] y after := by
  have hleft : lowercaseBetween before x ('Σ' :: y ++ after) = lowercaseBetween before x ['Σ'] := by
    refine lowercaseBetween_congr fun u v _ => ?_
    simp only [lowercaseSigma, List.cons_append, meetsCased_append_sigma v (y ++ after)]
  have hright : lowercaseBetween ('Σ' :: (x.reverse ++ before)) y after =
      lowercaseBetween ['Σ'] y after := by
    refine lowercaseBetween_congr fun u v _ => ?_
    simp only [lowercaseSigma, meetsCased_append_sigma u.reverse (x.reverse ++ before)]
  rw [lowercaseBetween_append, hleft, lowercaseBetween, hright]
  rfl

/-! ## Pieces that keep their lowercase form -/

/-- Each capital sigma of a piece has the form that it has in the piece alone. -/
def KeepsSigmas (before piece after : List Char) : Prop :=
  ∀ x y, piece = x ++ 'Σ' :: y →
    lowercaseSigma (x.reverse ++ before.reverse) (y ++ after) = lowercaseSigma x.reverse y

theorem KeepsSigmas.lowercase_infix {before piece after : List Char}
    (h : KeepsSigmas before piece after) :
    lowercase piece <:+: lowercase (before ++ piece ++ after) := by
  have hkept : lowercaseBetween before.reverse piece after = lowercase piece := by
    refine Eq.trans ?_ (lowercaseBetween_nil_right [] piece)
    refine lowercaseBetween_congr fun x y hsplit => ?_
    rw [h x y hsplit, List.append_nil, List.append_nil]
  refine ⟨lowercaseBetween [] before (piece ++ after),
    lowercaseAfter (piece.reverse ++ before.reverse) after, ?_⟩
  unfold lowercase at hkept ⊢
  rw [List.append_assoc before, lowercaseAfter_append [] before, List.append_nil,
    lowercaseAfter_append, hkept, List.append_assoc]

/-- Whether a letter right before a text would turn its first sigma into a final one. -/
def opensWithSigma (piece : List Char) : Bool :=
  match piece.dropWhile isCaseIgnorable with
  | [] => false
  | c :: rest => c == 'Σ' && !meetsCased rest

/-- Whether a letter right after a text would turn its final sigma into a plain one. -/
def closesWithSigma (piece : List Char) : Bool :=
  match piece.reverse.dropWhile isCaseIgnorable with
  | [] => false
  | c :: rest => c == 'Σ' && meetsCased rest

theorem exists_split_of_dropWhile {cs rest : List Char}
    (h : cs.dropWhile isCaseIgnorable = 'Σ' :: rest) :
    ∃ x, cs = x ++ 'Σ' :: rest ∧ x.all isCaseIgnorable = true := by
  refine ⟨cs.takeWhile isCaseIgnorable, ?_, List.all_takeWhile⟩
  rw [← h, List.takeWhile_append_dropWhile]

theorem dropWhile_split {x : List Char} (hx : x.all isCaseIgnorable = true) (rest : List Char) :
    (x ++ 'Σ' :: rest).dropWhile isCaseIgnorable = 'Σ' :: rest := by
  rw [List.dropWhile_append_of_pos (List.all_eq_true.1 hx),
    List.dropWhile_cons_of_neg (by rw [isCaseIgnorable_sigma]; exact Bool.false_ne_true)]

theorem opensWithSigma_iff {piece : List Char} :
    opensWithSigma piece = true ↔
      ∃ x y, piece = x ++ 'Σ' :: y ∧ x.all isCaseIgnorable = true ∧ meetsCased y = false := by
  constructor
  · intro h
    unfold opensWithSigma at h
    split at h
    · cases h
    · next c rest hdrop =>
        simp only [Bool.and_eq_true, beq_iff_eq, Bool.not_eq_true'] at h
        obtain ⟨rfl, hrest⟩ := h
        obtain ⟨x, hsplit, hx⟩ := exists_split_of_dropWhile hdrop
        exact ⟨x, rest, hsplit, hx, hrest⟩
  · rintro ⟨x, y, rfl, hx, hy⟩
    simp [opensWithSigma, dropWhile_split hx, hy]

theorem closesWithSigma_iff {piece : List Char} :
    closesWithSigma piece = true ↔
      ∃ x y, piece = x ++ 'Σ' :: y ∧ meetsCased x.reverse = true ∧
        y.all isCaseIgnorable = true := by
  constructor
  · intro h
    unfold closesWithSigma at h
    split at h
    · cases h
    · next c rest hdrop =>
        simp only [Bool.and_eq_true, beq_iff_eq] at h
        obtain ⟨rfl, hrest⟩ := h
        obtain ⟨y, hsplit, hy⟩ := exists_split_of_dropWhile hdrop
        refine ⟨rest.reverse, y.reverse, ?_, by rwa [List.reverse_reverse], ?_⟩
        · rw [← List.reverse_reverse piece, hsplit]
          simp
        · rw [List.all_reverse, hy]
  · rintro ⟨x, y, rfl, hx, hy⟩
    have hreversed : (x ++ 'Σ' :: y).reverse = y.reverse ++ 'Σ' :: x.reverse := by simp
    have hy' : y.reverse.all isCaseIgnorable = true := by rw [List.all_reverse, hy]
    simp [closesWithSigma, hreversed, dropWhile_split hy', hx]

/-- No letter before or after a text changes the form of a sigma in it. -/
def IsSettled (piece : List Char) : Prop :=
  opensWithSigma piece = false ∧ closesWithSigma piece = false

instance (piece : List Char) : Decidable (IsSettled piece) :=
  inferInstanceAs (Decidable (_ ∧ _))

theorem isSettled_of_no_sigma {piece : List Char} (h : 'Σ' ∉ piece) : IsSettled piece := by
  constructor
  · refine Bool.eq_false_iff.2 fun hopens => h ?_
    obtain ⟨x, y, rfl, -⟩ := opensWithSigma_iff.1 hopens
    exact List.mem_append_right x List.mem_cons_self
  · refine Bool.eq_false_iff.2 fun hcloses => h ?_
    obtain ⟨x, y, rfl, -⟩ := closesWithSigma_iff.1 hcloses
    exact List.mem_append_right x List.mem_cons_self

theorem IsSettled.keepsSigmas {piece : List Char} (h : IsSettled piece)
    (before after : List Char) : KeepsSigmas before piece after := by
  intro x y hsplit
  unfold lowercaseSigma
  -- A sigma is final by what stands on both sides, so each side is asked in turn.
  cases hx : x.reverse.all isCaseIgnorable with
  | true =>
      have hy : meetsCased y = true := by
        refine Bool.not_eq_false _ ▸ fun hy => ?_
        exact Bool.eq_false_iff.1 h.1
          (opensWithSigma_iff.2 ⟨x, y, hsplit, by rw [← List.all_reverse, hx], hy⟩)
      rw [meetsCased_append_of_meetsCased hy, hy]
      simp
  | false =>
      rw [meetsCased_append_of_not_ignorable hx]
      cases hbefore : meetsCased x.reverse with
      | false => simp
      | true =>
          have hy : y.all isCaseIgnorable = false :=
            Bool.eq_false_iff.2 fun hy =>
              Bool.eq_false_iff.1 h.2 (closesWithSigma_iff.2 ⟨x, y, hsplit, hbefore, hy⟩)
          rw [meetsCased_append_of_not_ignorable hy]

/-! ## Pieces that do not -/

theorem lowercaseBetween_of_ignorable {piece : List Char} (h : piece.all isCaseIgnorable = true)
    (before before' after after' : List Char) :
    lowercaseBetween before piece after = lowercaseBetween before' piece after' := by
  refine lowercaseBetween_congr fun x y hsplit => ?_
  subst hsplit
  simp [isCaseIgnorable_sigma] at h

/-- After a letter, the first sigma of the piece is a final one. -/
theorem lowercaseBetween_of_opensWithSigma {piece : List Char} (h : opensWithSigma piece = true) :
    ∃ x y, lowercase piece = x ++ 'σ' :: y ∧ lowercaseBetween ['a'] piece [] = x ++ 'ς' :: y := by
  obtain ⟨x, y, rfl, hx, hy⟩ := opensWithSigma_iff.1 h
  have hx' : x.reverse.all isCaseIgnorable = true := by rw [List.all_reverse, hx]
  have hletter : meetsCased ['a'] = true := by decide
  refine ⟨lowercaseBetween [] x ['Σ'], lowercaseBetween ['Σ'] y [], ?_, ?_⟩
  · rw [lowercase, ← lowercaseBetween_nil_right, lowercaseBetween_sigma, List.append_nil,
      List.append_nil, lowercaseSigma, meetsCased_of_ignorable hx']
    rfl
  · rw [lowercaseBetween_sigma, lowercaseBetween_of_ignorable hx ['a'] [] ['Σ'] ['Σ'],
      List.append_nil, lowercaseSigma, meetsCased_append_of_ignorable hx', hletter, hy]
    rfl

/-- Before a letter, the final sigma of the piece is a plain one. -/
theorem lowercaseBetween_of_closesWithSigma {piece : List Char}
    (h : closesWithSigma piece = true) :
    ∃ x y, lowercase piece = x ++ 'ς' :: y ∧ lowercaseBetween [] piece ['a'] = x ++ 'σ' :: y := by
  obtain ⟨x, y, rfl, hx, hy⟩ := closesWithSigma_iff.1 h
  have hletter : meetsCased ['a'] = true := by decide
  refine ⟨lowercaseBetween [] x ['Σ'], lowercaseBetween ['Σ'] y [], ?_, ?_⟩
  · rw [lowercase, ← lowercaseBetween_nil_right, lowercaseBetween_sigma, List.append_nil,
      List.append_nil, lowercaseSigma, hx, meetsCased_of_ignorable hy]
    rfl
  · rw [lowercaseBetween_sigma, lowercaseBetween_of_ignorable hy ['Σ'] ['Σ'] ['a'] [],
      lowercaseSigma, meetsCased_append_of_ignorable hy, hletter, Bool.not_true, Bool.and_false]
    rfl

/-- Neither lowercase form holds the other: the two differ in one sigma. -/
theorem not_infix_of_sigmas {x y before after : List Char} {kept lost : Char} (hne : lost ≠ kept)
    (hbefore : lost ∉ before) (hafter : lost ∉ after) :
    ¬ x ++ lost :: y <:+: before ++ (x ++ kept :: y) ++ after ∧
      ¬ before ++ (x ++ kept :: y) ++ after <:+: x ++ lost :: y := by
  constructor
  · intro h
    have hcount := h.sublist.count_le lost
    rw [List.count_append, List.count_append, List.count_append, List.count_append,
      List.count_cons_self, List.count_cons_of_ne hne.symm,
      List.count_eq_zero_of_not_mem hbefore, List.count_eq_zero_of_not_mem hafter] at hcount
    omega
  · intro h
    have hcount := h.sublist.count_le kept
    rw [List.count_append, List.count_append, List.count_append, List.count_append,
      List.count_cons_self, List.count_cons_of_ne hne] at hcount
    omega

/--
Between letters that turn one of its sigmas, a piece has a lowercase form that
neither holds the one it has alone nor is held by it.
-/
theorem exists_letter_of_not_isSettled {piece : List Char} (h : ¬ IsSettled piece) :
    ∃ before after, (before = ['a'] ∧ after = [] ∨ before = [] ∧ after = ['a']) ∧
      ¬ lowercase piece <:+: lowercase (before ++ piece ++ after) ∧
      ¬ lowercase (before ++ piece ++ after) <:+: lowercase piece := by
  have hletter : ∀ before, lowercaseAfter before ['a'] = ['a'] := fun _ => rfl
  have hopen : lowercaseBetween [] ['a'] piece = ['a'] := rfl
  cases hopens : opensWithSigma piece with
  | true =>
      obtain ⟨x, y, halone, hafter⟩ := lowercaseBetween_of_opensWithSigma hopens
      refine ⟨['a'], [], Or.inl ⟨rfl, rfl⟩, ?_⟩
      have hwhole : lowercase (['a'] ++ piece ++ []) = ['a'] ++ (x ++ 'ς' :: y) ++ [] := by
        rw [List.append_nil, List.append_nil, lowercase, lowercaseAfter_append, hopen, ← hafter,
          lowercaseBetween_nil_right]
        rfl
      rw [halone, hwhole]
      exact not_infix_of_sigmas (by decide) (by decide) (by decide)
  | false =>
      have hcloses : closesWithSigma piece = true :=
        Bool.not_eq_false _ ▸ fun hcloses => h ⟨hopens, hcloses⟩
      obtain ⟨x, y, halone, hbefore⟩ := lowercaseBetween_of_closesWithSigma hcloses
      refine ⟨[], ['a'], Or.inr ⟨rfl, rfl⟩, ?_⟩
      have hwhole : lowercase ([] ++ piece ++ ['a']) = [] ++ (x ++ 'σ' :: y) ++ ['a'] := by
        rw [List.nil_append, List.nil_append, lowercase, lowercaseAfter_append, hbefore, hletter]
      rw [halone, hwhole]
      exact not_infix_of_sigmas (by decide) (by decide) (by decide)

end Text

end SignalChain
