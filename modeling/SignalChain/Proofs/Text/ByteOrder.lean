import Mathlib.Data.List.Lex
import Mathlib.Data.String.Basic

/-!
# The order of texts

Texts are ordered by the code points of their characters.  UTF-8 keeps that
order: one text comes before another exactly when its bytes do.
-/

namespace SignalChain

namespace Text

/-- The UTF-8 bytes of a text. -/
def bytes (s : String) : List UInt8 :=
  s.toByteArray.data.toList

/-! ## One character -/

theorem bytes_eq_flatMap (s : String) :
    bytes s = s.toList.flatMap String.utf8EncodeChar := by
  have h := congrArg (fun b => b.data.toList) (String.utf8Encode_toList (b := s))
  simpa [bytes, List.utf8Encode] using h.symm

/-- Bytes are compared as the numbers that they are made of. -/
theorem ofNat_cons_lt {m n : Nat} (hm : m < 256) (hn : n < 256) {xs ys : List UInt8} :
    UInt8.ofNat m :: xs < UInt8.ofNat n :: ys ↔ m < n ∨ m = n ∧ xs < ys := by
  rw [List.cons_lt_cons_iff, UInt8.ofNat_lt_iff_lt hm hn]
  have heq : UInt8.ofNat m = UInt8.ofNat n ↔ m = n := by
    rw [← UInt8.toNat_inj, UInt8.toNat_ofNat_of_lt' hm, UInt8.toNat_ofNat_of_lt' hn]
  rw [heq]

/-- A smaller number has the smaller digit to base 64 where the two first differ. -/
theorem digits_lt {m n : Nat} (h : m < n) :
    m / 262144 < n / 262144 ∨
      m / 262144 = n / 262144 ∧
        (m / 4096 % 64 < n / 4096 % 64 ∨
          m / 4096 % 64 = n / 4096 % 64 ∧
            (m / 64 % 64 < n / 64 % 64 ∨
              m / 64 % 64 = n / 64 % 64 ∧ m % 64 < n % 64)) := by
  have step : ∀ {a b : Nat}, a < b → a / 64 < b / 64 ∨ a / 64 = b / 64 ∧ a % 64 < b % 64 := by
    intro a b hab
    omega
  have hthird : ∀ k : Nat, k / 64 / 64 = k / 4096 := fun k => Nat.div_div_eq_div_mul k 64 64
  have hfourth : ∀ k : Nat, k / 4096 / 64 = k / 262144 :=
    fun k => Nat.div_div_eq_div_mul k 4096 64
  rcases step h with h1 | ⟨heq1, h1⟩
  · rcases step h1 with h2 | ⟨heq2, h2⟩
    · rw [hthird, hthird] at h2
      rcases step h2 with h3 | ⟨heq3, h3⟩
      · rw [hfourth, hfourth] at h3
        exact Or.inl h3
      · rw [hfourth, hfourth] at heq3
        exact Or.inr ⟨heq3, Or.inl h3⟩
    · rw [hthird, hthird] at heq2
      exact Or.inr ⟨by rw [← hfourth, ← hfourth, heq2], Or.inr ⟨by rw [heq2], Or.inl h2⟩⟩
  · have heq2 : m / 4096 = n / 4096 := by rw [← hthird, ← hthird, heq1]
    exact Or.inr ⟨by rw [← hfourth, ← hfourth, heq2],
      Or.inr ⟨by rw [heq2], Or.inr ⟨by rw [heq1], h1⟩⟩⟩

/-- The bytes of a smaller character come first, whatever follows. -/
theorem utf8EncodeChar_append_lt {c d : Char} (h : c < d) (xs ys : List UInt8) :
    String.utf8EncodeChar c ++ xs < String.utf8EncodeChar d ++ ys := by
  have hlt : c.val.toNat < d.val.toNat := h
  have hd : d.val.toNat < 0x110000 := by
    have hvalid := d.valid
    simp only [UInt32.isValidChar, Nat.isValidChar] at hvalid
    omega
  have hctop : c.val.toNat / 262144 % 8 = c.val.toNat / 262144 := Nat.mod_eq_of_lt (by omega)
  have hdtop : d.val.toNat / 262144 % 8 = d.val.toNat / 262144 := Nat.mod_eq_of_lt (by omega)
  have hdigits := digits_lt hlt
  -- The first byte tells how many follow; at one length the bytes hold the digits.
  simp only [String.utf8EncodeChar]
  by_cases hrest : xs < ys
  all_goals
    split_ifs <;>
      simp (disch := omega) only [List.cons_append, List.nil_append, ofNat_cons_lt, hrest] <;>
      omega

/-! ## Texts -/

theorem flatMap_utf8EncodeChar_lt {a b : List Char} (h : a < b) :
    a.flatMap String.utf8EncodeChar < b.flatMap String.utf8EncodeChar := by
  induction a generalizing b with
  | nil =>
      cases b with
      | nil =>
          exact absurd h (List.not_lt_nil [])
      | cons d ds =>
          have hne : (d :: ds).flatMap String.utf8EncodeChar ≠ [] := by
            simp [String.utf8EncodeChar_ne_nil]
          obtain ⟨x, xs, hx⟩ := List.exists_cons_of_ne_nil hne
          rw [hx]
          exact List.nil_lt_cons x xs
  | cons c cs ih =>
      cases b with
      | nil =>
          exact absurd h (List.not_lt_nil (c :: cs))
      | cons d ds =>
          rw [List.flatMap_cons, List.flatMap_cons]
          rcases List.cons_lt_cons_iff.1 h with hcd | ⟨rfl, hrest⟩
          · exact utf8EncodeChar_append_lt hcd _ _
          · exact List.append_left_lt (ih hrest)

theorem bytes_lt_bytes_of_lt {a b : String} (h : a < b) : bytes a < bytes b := by
  rw [bytes_eq_flatMap, bytes_eq_flatMap]
  exact flatMap_utf8EncodeChar_lt (String.lt_iff_toList_lt.1 h)

/-- Texts are in the order of their bytes. -/
theorem bytes_lt_bytes_iff {a b : String} : bytes a < bytes b ↔ a < b := by
  refine ⟨fun h => ?_, bytes_lt_bytes_of_lt⟩
  rcases lt_trichotomy a b with hlt | heq | hgt
  · exact hlt
  · exact absurd (heq ▸ h) (List.lt_irrefl (bytes a))
  · exact absurd (bytes_lt_bytes_of_lt hgt) (List.lt_asymm h)

theorem compare_eq_lt_iff_bytes_lt {a b : String} :
    compare a b = .lt ↔ bytes a < bytes b := by
  rw [bytes_lt_bytes_iff]
  exact compareOfLessAndEq_eq_lt

end Text

end SignalChain
