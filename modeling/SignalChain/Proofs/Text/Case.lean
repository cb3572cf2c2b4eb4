import Mathlib.Data.List.Forall2
import SignalChain.Text.Case

/-!
# ASCII case and Unicode case

Putting the ASCII letters of a text in lower case first changes nothing in its
lowercase form.  Such a letter counts as a letter in either case, so a sigma
beside it has the same form before and after.  Texts with one lowercase form may
still differ in letters beyond ASCII, and in nothing else once the ASCII letters
are in lower case.
-/

namespace SignalChain

namespace Text

/-! ## One character -/

/-- The capital letters that have a lowercase letter in ASCII. -/
def asciiCapitals : List Char :=
  "ABCDEFGHIJKLMNOPQRSTUVWXYZ".toList

theorem toLower_eq_self_or_mem (c : Char) : c.toLower = c ∨ c ∈ asciiCapitals := by
  by_cases h : c.val ≥ 'A'.val ∧ c.val ≤ 'Z'.val
  · right
    obtain ⟨hlow, hhigh⟩ := h
    have hlow : 65 ≤ c.toNat := UInt32.le_iff_toNat_le.1 hlow
    have hhigh : c.toNat ≤ 90 := UInt32.le_iff_toNat_le.1 hhigh
    have hall : ∀ n < 26, Char.ofNat (n + 65) ∈ asciiCapitals := by decide
    have hc : Char.ofNat (c.toNat - 65 + 65) = c := by
      rw [Nat.sub_add_cancel hlow, Char.ofNat_toNat]
    exact hc ▸ hall (c.toNat - 65) (by omega)
  · exact Or.inl (dif_neg h)

/-- What holds of the ASCII capitals one by one holds of every character. -/
theorem congr_toLower {α : Type} {f : Char → α}
    (h : asciiCapitals.map (fun c => f c.toLower) = asciiCapitals.map f) (c : Char) :
    f c.toLower = f c := by
  rcases toLower_eq_self_or_mem c with hself | hmem
  · rw [hself]
  · exact List.map_inj_left.1 h c hmem

theorem isCased_toLower (c : Char) : isCased c.toLower = isCased c :=
  congr_toLower (by decide) c

theorem isCaseIgnorable_toLower (c : Char) : isCaseIgnorable c.toLower = isCaseIgnorable c :=
  congr_toLower (by decide) c

theorem lowercaseChar_toLower (c : Char) : lowercaseChar c.toLower = lowercaseChar c :=
  congr_toLower (by decide) c

theorem toLower_beq_sigma (c : Char) : (c.toLower == 'Σ') = (c == 'Σ') :=
  congr_toLower (f := fun c => c == 'Σ') (by decide) c

/-! ## Texts -/

theorem meetsCased_lowercaseAscii (cs : List Char) :
    meetsCased (lowercaseAscii cs) = meetsCased cs := by
  unfold meetsCased lowercaseAscii
  induction cs with
  | nil => rfl
  | cons c rest ih =>
      simp only [List.map_cons, List.dropWhile_cons, isCaseIgnorable_toLower]
      cases isCaseIgnorable c with
      | true => simpa using ih
      | false => simp [isCased_toLower]

theorem lowercaseAfter_lowercaseAscii (before cs : List Char) :
    lowercaseAfter (lowercaseAscii before) (lowercaseAscii cs) = lowercaseAfter before cs := by
  induction cs generalizing before with
  | nil => rfl
  | cons c rest ih =>
      have hrest := ih (c :: before)
      have hsigma : lowercaseSigma (lowercaseAscii before) (lowercaseAscii rest) =
          lowercaseSigma before rest := by
        simp only [lowercaseSigma, meetsCased_lowercaseAscii]
      have hstep : lowercaseAscii (c :: rest) = c.toLower :: lowercaseAscii rest := rfl
      have hbefore : lowercaseAscii (c :: before) = c.toLower :: lowercaseAscii before := rfl
      rw [hbefore] at hrest
      rw [hstep, lowercaseAfter, lowercaseAfter, toLower_beq_sigma, lowercaseChar_toLower, hsigma,
        hrest]

theorem lowercase_lowercaseAscii (cs : List Char) :
    lowercase (lowercaseAscii cs) = lowercase cs :=
  lowercaseAfter_lowercaseAscii [] cs

/-- Texts that differ only in the case of ASCII letters have one lowercase form. -/
theorem lowercase_eq_of_lowercaseAscii_eq {cs ds : List Char}
    (h : lowercaseAscii cs = lowercaseAscii ds) : lowercase cs = lowercase ds := by
  rw [← lowercase_lowercaseAscii cs, h, lowercase_lowercaseAscii]

/-- Every character has a lowercase form of its own, so only the empty text has an empty one. -/
theorem lowercase_eq_nil_iff {cs : List Char} : lowercase cs = [] ↔ cs = [] := by
  cases cs with
  | nil => simp [lowercase, lowercaseAfter]
  | cons c rest =>
      have hchar : lowercaseChar c ≠ [] := by
        unfold lowercaseChar
        split <;> simp
      by_cases hsigma : c == 'Σ' <;> simp [lowercase, lowercaseAfter, hsigma, hchar]

/-! ## Texts that differ in ASCII letters only -/

/-- The same character, or two of ASCII. -/
def SameBeyondAscii (c d : Char) : Prop :=
  c = d ∨ c.toNat < 128 ∧ d.toNat < 128

instance (c d : Char) : Decidable (SameBeyondAscii c d) :=
  inferInstanceAs (Decidable (_ ∨ _))

theorem toLower_isAscii (c : Char) : decide (c.toLower.toNat < 128) = decide (c.toNat < 128) :=
  congr_toLower (f := fun c => decide (c.toNat < 128)) (by decide) c

theorem sameBeyondAscii_of_toLower_eq {c d : Char} (h : c.toLower = d.toLower) :
    SameBeyondAscii c d := by
  have hcapital : ∀ c ∈ asciiCapitals, c.toNat < 128 := by
    have hall : asciiCapitals.all (fun c => decide (c.toNat < 128)) = true := by decide
    exact fun c hc => of_decide_eq_true (List.all_eq_true.1 hall c hc)
  have hascii : c.toNat < 128 ↔ d.toNat < 128 :=
    calc
      c.toNat < 128 ↔ c.toLower.toNat < 128 := decide_eq_decide.1 (toLower_isAscii c).symm
      _ ↔ d.toLower.toNat < 128 := by rw [h]
      _ ↔ d.toNat < 128 := decide_eq_decide.1 (toLower_isAscii d)
  rcases toLower_eq_self_or_mem c with hc | hc
  · rcases toLower_eq_self_or_mem d with hd | hd
    · exact Or.inl (by rw [← hc, h, hd])
    · exact Or.inr ⟨hascii.2 (hcapital d hd), hcapital d hd⟩
  · exact Or.inr ⟨hcapital c hc, hascii.1 (hcapital c hc)⟩

theorem lowercaseChar_of_ascii {c : Char} (h : c.toNat < 128) : lowercaseChar c = [c.toLower] := by
  have hdotted : ¬ (c == 'İ') = true := by
    intro hc
    rw [eq_of_beq hc] at h
    exact absurd h (by decide)
  rw [lowercaseChar, if_neg hdotted, shiftLower, if_pos h]

theorem beq_sigma_of_ascii {c : Char} (h : c.toNat < 128) : (c == 'Σ') = false := by
  refine Bool.eq_false_iff.2 fun hc => ?_
  rw [eq_of_beq hc] at h
  exact absurd h (by decide)

theorem lowercaseAfter_of_ascii {cs : List Char} (h : ∀ c ∈ cs, c.toNat < 128)
    (before : List Char) : lowercaseAfter before cs = lowercaseAscii cs := by
  induction cs generalizing before with
  | nil => rfl
  | cons c rest ih =>
      have hc : c.toNat < 128 := h c List.mem_cons_self
      rw [lowercaseAfter, beq_sigma_of_ascii hc, if_neg Bool.false_ne_true,
        lowercaseChar_of_ascii hc, ih fun d hd => h d (List.mem_cons_of_mem c hd)]
      rfl

theorem lowercaseAscii_eq_of_lowercaseAfter_eq {cs ds before before' : List Char}
    (hsame : List.Forall₂ SameBeyondAscii cs ds)
    (hlower : lowercaseAfter before cs = lowercaseAfter before' ds) :
    lowercaseAscii cs = lowercaseAscii ds := by
  induction hsame generalizing before before' with
  | nil => rfl
  | @cons c d cs ds hcd _ ih =>
      have hstep : ∀ (c : Char) (cs : List Char),
          lowercaseAscii (c :: cs) = c.toLower :: lowercaseAscii cs := fun _ _ => rfl
      unfold lowercaseAfter at hlower
      rcases hcd with rfl | ⟨hc, hd⟩
      · rw [hstep, hstep]
        cases hsigma : c == 'Σ' with
        | true =>
            rw [hsigma, if_pos rfl, if_pos rfl] at hlower
            rw [ih (List.cons.inj hlower).2]
        | false =>
            rw [hsigma, if_neg Bool.false_ne_true, if_neg Bool.false_ne_true] at hlower
            rw [ih (List.append_cancel_left hlower)]
      · rw [beq_sigma_of_ascii hc, beq_sigma_of_ascii hd, if_neg Bool.false_ne_true,
          if_neg Bool.false_ne_true, lowercaseChar_of_ascii hc, lowercaseChar_of_ascii hd] at hlower
        obtain ⟨hhead, htail⟩ := List.cons.inj hlower
        rw [hstep, hstep, hhead, ih htail]

/--
Texts are alike in all but the case of ASCII letters exactly when they have one
lowercase form and no character beyond ASCII differs.
-/
theorem lowercaseAscii_eq_iff {cs ds : List Char} :
    lowercaseAscii cs = lowercaseAscii ds ↔
      lowercase cs = lowercase ds ∧ List.Forall₂ SameBeyondAscii cs ds := by
  constructor
  · intro h
    refine ⟨lowercase_eq_of_lowercaseAscii_eq h, ?_⟩
    have hletters : List.Forall₂ (fun c d : Char => c.toLower = d.toLower) cs ds := by
      rw [← List.forall₂_map_left_iff (f := Char.toLower) (R := fun c d => c = Char.toLower d),
        ← List.forall₂_map_right_iff (f := Char.toLower) (R := Eq), List.forall₂_eq_eq_eq]
      exact h
    exact hletters.imp fun _ _ => sameBeyondAscii_of_toLower_eq
  · rintro ⟨hlower, hsame⟩
    exact lowercaseAscii_eq_of_lowercaseAfter_eq hsame hlower

end Text

end SignalChain
