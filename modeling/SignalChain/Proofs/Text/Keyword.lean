import Mathlib.Data.List.Infix
import SignalChain.Proofs.Text.Case

/-!
# Keywords in the lowercase form of a text

The lowercase form of a text depends on the neighbours of a letter for its sigmas
alone.  With one letter for all sigmas it is made character by character, so it
holds the form of each piece of the text.  A keyword without a sigma occurs in
one form exactly when it occurs in the other.
-/

namespace SignalChain

namespace Text

/-! ## One letter for all sigmas -/

/-- The plain lowercase sigma for the final one, and every other character as it is. -/
def plainSigma (c : Char) : Char :=
  if c == 'ς' then 'σ' else c

/-- The lowercase form of a text with one letter for all sigmas. -/
def lowercasePlain (cs : List Char) : List Char :=
  cs.flatMap fun c => (lowercaseChar c).map plainSigma

theorem map_plainSigma_lowercaseAfter (before cs : List Char) :
    (lowercaseAfter before cs).map plainSigma = lowercasePlain cs := by
  induction cs generalizing before with
  | nil => rfl
  | cons c rest ih =>
      have hfirst : (if c == 'Σ' then [lowercaseSigma before rest] else lowercaseChar c).map
          plainSigma = (lowercaseChar c).map plainSigma := by
        cases hc : c == 'Σ' with
        | false => rfl
        | true =>
            -- Either form that the neighbours ask for is the plain one here.
            have halone : (lowercaseChar 'Σ').map plainSigma = ['σ'] := by decide +kernel
            rw [if_pos rfl, eq_of_beq hc, halone, lowercaseSigma]
            split <;> rfl
      rw [lowercaseAfter, List.map_append, hfirst, ih]
      rfl

theorem map_plainSigma_lowercase (cs : List Char) :
    (lowercase cs).map plainSigma = lowercasePlain cs :=
  map_plainSigma_lowercaseAfter [] cs

theorem lowercasePlain_append (cs ds : List Char) :
    lowercasePlain (cs ++ ds) = lowercasePlain cs ++ lowercasePlain ds :=
  List.flatMap_append

/-! ## Keywords -/

/-- A piece in which neither form of the lowercase sigma occurs. -/
def HasNoSigma (piece : List Char) : Prop :=
  'σ' ∉ piece ∧ 'ς' ∉ piece

instance (piece : List Char) : Decidable (HasNoSigma piece) :=
  inferInstanceAs (Decidable (_ ∧ _))

theorem plainSigma_of_ne {c : Char} (h : c ≠ 'ς') : plainSigma c = c := by
  rw [plainSigma, if_neg (by simpa using h)]

theorem eq_of_plainSigma_ne {c : Char} (h : plainSigma c ≠ 'σ') : plainSigma c = c := by
  refine plainSigma_of_ne ?_
  rintro rfl
  exact h rfl

theorem map_plainSigma_eq_self {cs : List Char} (h : ∀ c ∈ cs, plainSigma c = c) :
    cs.map plainSigma = cs :=
  (List.map_congr_left h).trans (List.map_id cs)

theorem infix_map_plainSigma_iff {piece : List Char} (h : HasNoSigma piece) {cs : List Char} :
    piece <:+: cs.map plainSigma ↔ piece <:+: cs := by
  constructor
  · rintro ⟨before, after, heq⟩
    obtain ⟨start, after', rfl, hstart, -⟩ := List.map_eq_append_iff.1 heq.symm
    obtain ⟨before', found, rfl, -, hfound⟩ := List.map_eq_append_iff.1 hstart
    have hself : found.map plainSigma = found := by
      refine map_plainSigma_eq_self fun c hc => eq_of_plainSigma_ne fun heq => h.1 ?_
      rw [← heq, ← hfound]
      exact List.mem_map_of_mem hc
    rw [← hfound, hself]
    exact ⟨before', after', rfl⟩
  · intro hinfix
    rw [← map_plainSigma_eq_self fun c hc => plainSigma_of_ne fun heq => h.2 (heq ▸ hc)]
    exact hinfix.map plainSigma

/-- A keyword without a sigma is sought in a form that is made character by character. -/
theorem infix_lowercase_iff {piece : List Char} (h : HasNoSigma piece) {cs : List Char} :
    piece <:+: lowercase cs ↔ piece <:+: lowercasePlain cs := by
  rw [← map_plainSigma_lowercase, infix_map_plainSigma_iff h]

/-- A keyword that a piece of a text mentions is mentioned by the text. -/
theorem infix_lowercase_of_infix {piece cs ds : List Char} (h : HasNoSigma piece)
    (hcs : cs <:+: ds) (hpiece : piece <:+: lowercase cs) : piece <:+: lowercase ds := by
  rw [infix_lowercase_iff h] at hpiece ⊢
  exact hpiece.trans (hcs.flatMap _)

/-! ## Separators -/

theorem eq_nil_of_prefix_cons {piece after : List Char} {sep : Char} (h : sep ∉ piece)
    (hfront : piece <+: sep :: after) : piece = [] := by
  rcases List.prefix_cons_iff.1 hfront with hnil | ⟨rest, rfl, -⟩
  · exact hnil
  · exact absurd List.mem_cons_self h

/-- A keyword lies on one side of a character that it does not have. -/
theorem infix_append_cons_iff {piece before after : List Char} {sep : Char} (h : sep ∉ piece) :
    piece <:+: before ++ sep :: after ↔ piece <:+: before ∨ piece <:+: after := by
  rw [List.infix_append_iff, List.infix_cons_iff]
  constructor
  · rintro (hbefore | (hfront | hafter) | ⟨left, right, rfl, hleft, hright⟩)
    · exact Or.inl hbefore
    · rw [eq_nil_of_prefix_cons h hfront]
      exact Or.inl List.nil_infix
    · exact Or.inr hafter
    · rw [eq_nil_of_prefix_cons (fun hsep => h (List.mem_append_right left hsep)) hright,
        List.append_nil]
      exact Or.inl hleft.isInfix
  · rintro (hbefore | hafter)
    · exact Or.inl hbefore
    · exact Or.inr (Or.inl (Or.inr hafter))

end Text

end SignalChain
