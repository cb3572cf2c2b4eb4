import SignalChain.Document.Json.Writer
import SignalChain.Document.Json.Number
import SignalChain.Proofs.Decimal.Range

/-!
# Written numbers are read as numbers

The text of an integer and that of a finite double follow the grammar of JSON,
whatever digits they have.  An integer is read as itself.  A double is written
with a point or an exponent, so it is never taken for an integer.
-/

namespace SignalChain

namespace Decimal

/-! ## Digits -/

/-- The value of a digit. -/
def digitValue (c : Char) : Nat :=
  c.toNat - '0'.toNat

/-- A text does not go on with a digit. -/
def NoDigit (rest : List Char) : Prop :=
  ∀ c ∈ rest.head?, c.isDigit = false

theorem readDigits_append {ds rest : List Char} (hds : ∀ c ∈ ds, c.isDigit = true)
    (hrest : NoDigit rest) : readDigits (ds ++ rest) = (ds.map digitValue, rest) := by
  induction ds with
  | nil =>
      cases rest with
      | nil => rfl
      | cons c rest =>
          have hc : c.isDigit = false := hrest c rfl
          simp [readDigits, hc]
  | cons c ds ih =>
      obtain ⟨hc, hds⟩ := List.forall_mem_cons.1 hds
      simp only [List.cons_append, readDigits, hc, if_true, ih hds]
      rfl

theorem isDigit_of_mem_natText {n : Nat} {c : Char} (h : c ∈ natText n) : c.isDigit = true :=
  Nat.isDigit_of_mem_toDigits (by decide) (by decide) h

theorem natText_ne_nil (n : Nat) : natText n ≠ [] :=
  Nat.toDigits_ne_nil

theorem ofDigits_natText (n : Nat) : ofDigits ((natText n).map digitValue) = n := by
  unfold ofDigits ofDigitsIn
  rw [List.foldl_map]
  exact Nat.ofDigitChars_toDigits (by decide) (by decide)

theorem head?_natText_ne {n : Nat} (h : n ≠ 0) : (natText n).head? ≠ some '0' := by
  induction n using Nat.strongRecOn with
  | ind n ih =>
      unfold natText
      rw [Nat.toDigits_eq_if (by decide)]
      by_cases hsmall : n < 10
      · rw [if_pos hsmall]
        have hdigits : ∀ d < 10, d ≠ 0 → [Nat.digitChar d].head? ≠ some '0' := by decide
        exact hdigits n hsmall h
      · rw [if_neg hsmall]
        have hlead := ih (n / 10) (by omega) (by omega)
        have hne := natText_ne_nil (n / 10)
        unfold natText at hlead hne
        cases hdigits : Nat.toDigits 10 (n / 10) with
        | nil => exact absurd hdigits hne
        | cons c cs =>
            rw [hdigits] at hlead
            exact hlead

theorem digitValue_ne_zero {c : Char} (hdigit : c.isDigit = true) (hzero : c ≠ '0') :
    digitValue c ≠ 0 := by
  simp only [Char.isDigit, Bool.and_eq_true, decide_eq_true_eq] at hdigit
  intro hvalue
  refine hzero (Char.toNat_inj.1 ?_)
  have hlow : '0'.toNat ≤ c.toNat := UInt32.le_iff_toNat_le.1 hdigit.1
  unfold digitValue at hvalue
  omega

/-- Finite doubles have digits. -/
theorem magnitude_of_isFinite {x : Float} (h : x.isFinite = true) :
    ∃ mantissa exponent, magnitude x = .finite mantissa exponent := by
  have hscale : x.toBits.toNat / leadingBit % 2048 ≠ 2047 := by
    intro hones
    refine unpackExponent_ne_of_isFinite h (BitVec.eq_of_toNat_eq ?_)
    have hbits : x.toBits.toNat = x.toModel.toBits.toBitVec.toNat := rfl
    simp only [Float.Model.UnpackedFloat.unpackExponent, BitVec.toNat_cast,
      BitVec.extractLsb_toNat, Nat.shiftRight_eq_div_pow]
    rw [hbits] at hones
    exact hones
  unfold magnitude magnitudeOfBits
  simp only [hscale, if_false]
  by_cases hzero : x.toBits.toNat / leadingBit % 2048 = 0
  · exact ⟨_, _, if_pos hzero⟩
  · exact ⟨_, _, if_neg hzero⟩

end Decimal

namespace Document

namespace Json

open Decimal

/-! ## The parts of a number -/

/-- Digits that may stand before a point. -/
structure IsWhole (ds : List Char) : Prop where
  nonempty : ds ≠ []
  digits : ∀ c ∈ ds, c.isDigit = true
  /-- Only zero itself begins with a zero. -/
  leading : ds.head? = some '0' → ds = ['0']

theorem isWhole_natText (n : Nat) : IsWhole (natText n) where
  nonempty := natText_ne_nil n
  digits _ := isDigit_of_mem_natText
  leading hhead := by
    by_cases hn : n = 0
    · rw [hn]
      rfl
    · exact absurd hhead (head?_natText_ne hn)

theorem readWhole_append {ds rest : List Char} (h : IsWhole ds) (hrest : NoDigit rest) :
    readWhole (ds ++ rest) = some (ds.map digitValue, rest) := by
  unfold readWhole
  rw [readDigits_append h.digits hrest]
  match ds, h with
  | [], h => exact absurd rfl h.nonempty
  | [c], _ => cases hv : digitValue c <;> simp [hv]
  | c :: d :: ds, h =>
      have hzero : c ≠ '0' := by
        intro hc
        rw [hc] at h
        cases h.leading rfl
      have hvalue := digitValue_ne_zero (h.digits c List.mem_cons_self) hzero
      cases hv : digitValue c with
      | zero => exact absurd hv hvalue
      | succ v => simp [hv]

/-- A text does not go on with anything that belongs to a number. -/
structure EndsNumber (rest : List Char) : Prop where
  digit : NoDigit rest
  point : rest.head? ≠ some '.'
  lower : rest.head? ≠ some 'e'
  upper : rest.head? ≠ some 'E'

/-- A point and the digits after it, if there are any. -/
def placesText : Option (List Char) → List Char
  | none => []
  | some places => '.' :: places

theorem readFraction_append {places : Option (List Char)} {rest : List Char}
    (hplaces : ∀ ds ∈ places, ds ≠ [] ∧ ∀ c ∈ ds, c.isDigit = true)
    (hrest : NoDigit rest) (hpoint : rest.head? ≠ some '.') :
    readFraction (placesText places ++ rest) = some (places.map (·.map digitValue), rest) := by
  cases places with
  | none =>
      unfold readFraction
      split
      · next htext =>
          have hhead : rest.head? = some '.' := congrArg List.head? htext
          exact absurd hhead hpoint
      · rfl
  | some ds =>
      obtain ⟨hne, hds⟩ := hplaces ds rfl
      simp only [placesText, List.cons_append, readFraction, readDigits_append hds hrest]
      cases ds with
      | nil => exact absurd rfl hne
      | cons c ds => rfl

/-- The mark of a power of ten and the power, if there is one. -/
def powerText : Option Int → List Char
  | none => []
  | some power => (if 0 ≤ power then ['e', '+'] else ['e']) ++ intText power

theorem readExponent_append (power : Option Int) {rest : List Char} (hrest : EndsNumber rest) :
    readExponent (powerText power ++ rest) = some (power, rest) := by
  cases power with
  | none =>
      cases rest with
      | nil => rfl
      | cons c rest =>
          have hlower : c ≠ 'e' := fun heq => hrest.lower (congrArg some heq)
          have hupper : c ≠ 'E' := fun heq => hrest.upper (congrArg some heq)
          simp [powerText, readExponent, hlower, hupper]
  | some power =>
      have hdigits : readDigits (natText power.natAbs ++ rest) =
          ((natText power.natAbs).map digitValue, rest) :=
        readDigits_append (fun _ => isDigit_of_mem_natText) hrest.digit
      have hvalue := ofDigits_natText power.natAbs
      have hne : (natText power.natAbs).map digitValue ≠ [] := by
        simpa using natText_ne_nil power.natAbs
      cases hread : (natText power.natAbs).map digitValue with
      | nil => exact absurd hread hne
      | cons d ds =>
          rw [hread] at hdigits hvalue
          by_cases hpower : 0 ≤ power
          · have habs : (power.natAbs : Int) = power := by omega
            have hsign : ¬ power < 0 := by omega
            simp only [readExponent, powerText, hpower, if_true, intText, hsign, if_false,
              List.cons_append, List.nil_append, BEq.rfl, Char.reduceBEq, Bool.or_false, hdigits,
              Bool.false_eq_true, hvalue, habs]
          · have habs : -(power.natAbs : Int) = power := by omega
            have hsign : power < 0 := by omega
            simp only [readExponent, powerText, hpower, if_false, intText, hsign, if_true,
              List.cons_append, List.nil_append, BEq.rfl, Char.reduceBEq, Bool.or_false, hdigits,
              hvalue, habs]

theorem head?_powerText_append {power : Option Int} {rest : List Char} {c : Char}
    (h : (powerText power ++ rest).head? = some c) : c = 'e' ∨ rest.head? = some c := by
  cases power with
  | none => exact Or.inr h
  | some power =>
      left
      unfold powerText at h
      by_cases hpower : 0 ≤ power <;> simp [hpower] at h <;> exact h.symm

/-! ## Whole numbers -/

/-- Put a sign before a number that is negative. -/
def withSign (negative : Bool) (cs : List Char) : List Char :=
  (if negative then ['-'] else []) ++ cs

theorem readNumeral_withSign (negative : Bool) {cs afterWhole afterFraction rest : List Char}
    {whole : List Nat} {fraction : Option (List Nat)} {exponent : Option Int}
    (hwhole : readWhole cs = some (whole, afterWhole))
    (hfraction : readFraction afterWhole = some (fraction, afterFraction))
    (hexponent : readExponent afterFraction = some (exponent, rest)) :
    readNumeral (withSign negative cs) = some (⟨negative, whole, fraction, exponent⟩, rest) := by
  have hsign : cs.head? ≠ some '-' := by
    intro hhead
    cases cs with
    | nil => cases hhead
    | cons c cs =>
        cases hhead
        cases hwhole
  unfold readNumeral withSign
  cases negative with
  | true => simp [hwhole, hfraction, hexponent]
  | false =>
      simp only [Bool.false_eq_true, if_false, List.nil_append]
      split
      · exact absurd rfl hsign
      · simp [hwhole, hfraction, hexponent]

/-- A text is a number, and the reader stops where it ends. -/
def IsNumeral (cs : List Char) (n : Numeral) : Prop :=
  ∀ rest, EndsNumber rest → readNumeral (cs ++ rest) = some (n, rest)

/-- What the grammar of JSON has for numbers. -/
theorem isNumeral_parts (negative : Bool) {whole : List Char} {places : Option (List Char)}
    (power : Option Int) (hwhole : IsWhole whole)
    (hplaces : ∀ ds ∈ places, ds ≠ [] ∧ ∀ c ∈ ds, c.isDigit = true) :
    IsNumeral (withSign negative (whole ++ (placesText places ++ powerText power)))
      ⟨negative, whole.map digitValue, places.map (·.map digitValue), power⟩ := by
  intro rest hrest
  have htext : withSign negative (whole ++ (placesText places ++ powerText power)) ++ rest =
      withSign negative (whole ++ (placesText places ++ (powerText power ++ rest))) := by
    simp [withSign]
  have hpower : NoDigit (powerText power ++ rest) := by
    intro c hc
    obtain rfl | hhead := head?_powerText_append hc
    · rfl
    · exact hrest.digit c hhead
  have hpoint : (powerText power ++ rest).head? ≠ some '.' := by
    intro hhead
    obtain heq | hhead := head?_powerText_append hhead
    · cases heq
    · exact hrest.point hhead
  have hstop : NoDigit (placesText places ++ (powerText power ++ rest)) := by
    cases places with
    | none => exact hpower
    | some ds =>
        intro c hc
        cases hc
        rfl
  rw [htext]
  exact readNumeral_withSign negative (readWhole_append hwhole hstop)
    (readFraction_append hplaces hpower hpoint) (readExponent_append power hrest)

theorem isNumeral_intText (n : Int) :
    IsNumeral (intText n)
      ⟨decide (n < 0), (natText n.natAbs).map digitValue, none, none⟩ := by
  have htext : intText n =
      withSign (decide (n < 0)) (natText n.natAbs ++ (placesText none ++ powerText none)) := by
    unfold intText withSign placesText powerText
    by_cases hn : n < 0 <;> simp [hn]
  rw [htext]
  exact isNumeral_parts _ none (isWhole_natText n.natAbs) nofun

theorem toValue_intText {n : Int} (h : isInteger64 n = true) :
    (⟨decide (n < 0), (natText n.natAbs).map digitValue, none, none⟩ : Numeral).toValue =
      .int n := by
  simp only [isInteger64, isSigned64, isUnsigned64, Bool.or_eq_true, Bool.and_eq_true,
    decide_eq_true_eq] at h
  simp only [Numeral.toValue, Option.isNone_none, Bool.and_self, if_true, ofDigits_natText]
  by_cases hn : n < 0
  · have habs : -(n.natAbs : Int) = n := by omega
    have hfits : isSigned64 n = true := by
      simp only [isSigned64, Bool.and_eq_true, decide_eq_true_eq]
      omega
    simp only [hn, decide_true, if_true, habs, hfits, Bool.and_true, bne_iff_ne, ne_eq,
      Int.natAbs_eq_zero, ite_not, ite_eq_right_iff]
    omega
  · have habs : (n.natAbs : Int) = n := by omega
    have hfits : isUnsigned64 n.natAbs = true := by
      simp only [isUnsigned64, decide_eq_true_eq]
      omega
    simp only [hn, decide_false, Bool.false_eq_true, if_false, hfits, if_true, habs]

/-! ## Doubles -/

theorem isDigit_of_mem_replicate {count : Nat} {c : Char} (h : c ∈ List.replicate count '0') :
    c.isDigit = true := by
  rw [List.eq_of_mem_replicate h]
  rfl

/-- A number without an exponent has digits on both sides of the point. -/
theorem plainText_point (d : Digits) : ∃ whole places, IsWhole whole ∧ places ≠ [] ∧
    (∀ c ∈ places, c.isDigit = true) ∧
      plainText d ++ (if 0 ≤ d.exponent then ['.', '0'] else []) = whole ++ '.' :: places := by
  have hdigits : ∀ c ∈ natText d.coefficient, c.isDigit = true :=
    fun _ => isDigit_of_mem_natText
  have hwhole := isWhole_natText d.coefficient
  have hlength : 0 < (natText d.coefficient).length :=
    List.length_pos_iff.2 (natText_ne_nil _)
  have hzero : ∀ c ∈ ['0'], c.isDigit = true := by
    intro c hc
    rw [List.mem_singleton.1 hc]
    rfl
  unfold plainText
  by_cases hexponent : 0 ≤ d.exponent
  · simp only [hexponent, if_true]
    by_cases hcoefficient : d.coefficient = 0
    · rw [if_pos hcoefficient]
      exact ⟨_, ['0'], hwhole, by simp, hzero, rfl⟩
    · rw [if_neg hcoefficient]
      refine ⟨_, ['0'], ⟨by simp [natText_ne_nil], ?_, ?_⟩, by simp, hzero, rfl⟩
      · exact List.forall_mem_append.2 ⟨hdigits, fun _ => isDigit_of_mem_replicate⟩
      · have hne := natText_ne_nil d.coefficient
        rw [List.head?_append, Option.or_of_isSome (by simpa using hne)]
        exact fun hhead => absurd hhead (head?_natText_ne hcoefficient)
  · simp only [hexponent, if_false, List.append_nil]
    by_cases hpoint : ((natText d.coefficient).length : Int) + d.exponent ≤ 0
    · rw [if_pos hpoint]
      refine ⟨['0'], _, ⟨by simp, hzero, fun _ => rfl⟩, ?_, ?_, rfl⟩
      · simp [natText_ne_nil]
      · exact List.forall_mem_append.2 ⟨fun _ => isDigit_of_mem_replicate, hdigits⟩
    · rw [if_neg hpoint]
      -- The point stands inside the digits, so there are at least two of them.
      have hcoefficient : d.coefficient ≠ 0 := by
        intro hzero
        rw [hzero] at hpoint
        have hone : (natText 0).length = 1 := rfl
        omega
      refine ⟨_, _, ⟨?_, ?_, ?_⟩, ?_, ?_, rfl⟩
      · rw [ne_eq, ← List.length_eq_zero_iff, List.length_take]
        omega
      · exact fun c hc => hdigits c (List.mem_of_mem_take hc)
      · intro hhead
        rw [List.head?_take, if_neg (by omega)] at hhead
        exact absurd hhead (head?_natText_ne hcoefficient)
      · rw [ne_eq, ← List.length_eq_zero_iff, List.length_drop]
        omega
      · exact fun c hc => hdigits c (List.mem_of_mem_drop hc)

/-- A number with an exponent has one digit before the point. -/
theorem exponentText_parts (d : Digits) : ∃ c places, c.isDigit = true ∧
    (∀ ds ∈ places, ds ≠ [] ∧ ∀ c ∈ ds, c.isDigit = true) ∧
      exponentText true d =
        [c] ++ (placesText places ++ powerText (some (leadingExponent d))) := by
  have hdigits : ∀ c ∈ natText d.coefficient, c.isDigit = true :=
    fun _ => isDigit_of_mem_natText
  unfold exponentText
  simp only [Bool.true_and, decide_eq_true_eq]
  match htext : natText d.coefficient with
  | [] => exact absurd htext (natText_ne_nil _)
  | [c] =>
      rw [htext] at hdigits
      exact ⟨c, none, hdigits c List.mem_cons_self, nofun, rfl⟩
  | c :: next :: rest =>
      rw [htext] at hdigits
      obtain ⟨hc, hrest⟩ := List.forall_mem_cons.1 hdigits
      refine ⟨c, some (next :: rest), hc, ?_, ?_⟩
      · intro ds hds
        cases hds
        exact ⟨by simp, hrest⟩
      · simp [placesText, powerText]

theorem isNumeral_digits (negative : Bool) (d : Digits) : ∃ n : Numeral,
    (n.fraction.isSome ∨ n.exponent.isSome) ∧
      IsNumeral (withSign negative (floatLayout.digits d)) n := by
  unfold FloatLayout.digits
  by_cases hplain : (d.coefficient = 0 || floatLayout.plain (leadingExponent d)) = true
  · rw [if_pos hplain]
    obtain ⟨whole, places, hwhole, hne, hplaces, htext⟩ := plainText_point d
    have hmark : floatLayout.wholeMark = ['.', '0'] := rfl
    rw [hmark, htext]
    have hsome : ∀ ds ∈ some places, ds ≠ [] ∧ ∀ c ∈ ds, c.isDigit = true := by
      intro ds hds
      cases hds
      exact ⟨hne, hplaces⟩
    have hparts := isNumeral_parts negative none hwhole hsome
    simp only [placesText, powerText, List.append_nil] at hparts
    exact ⟨_, Or.inl rfl, hparts⟩
  · rw [if_neg hplain]
    obtain ⟨c, places, hc, hplaces, htext⟩ := exponentText_parts d
    have hplus : floatLayout.plusSign = true := rfl
    rw [hplus, htext]
    have hwhole : IsWhole [c] := ⟨by simp, by simpa using hc, by simp⟩
    exact ⟨_, Or.inr rfl,
      isNumeral_parts negative (some (leadingExponent d)) hwhole hplaces⟩

/-- A number with a point or an exponent is a double, unless it is beyond their range. -/
theorem toValue_of_float {n : Numeral} (h : n.fraction.isSome ∨ n.exponent.isSome) :
    n.toValue = .unusable ∨ ∃ x, n.toValue = .float x := by
  have hfloat : n.toValue = n.floatValue := by
    unfold Numeral.toValue
    refine if_neg ?_
    rw [Bool.and_eq_true, Option.isNone_iff_eq_none, Option.isNone_iff_eq_none]
    intro hnone
    simp [hnone] at h
  rw [hfloat]
  unfold Numeral.floatValue
  simp only
  split
  · exact Or.inl rfl
  · exact Or.inr ⟨_, rfl⟩

/-- The text of a finite double is a number, and no whole number. -/
theorem isNumeral_float {x : Float} (h : x.isFinite = true) : ∃ n : Numeral,
    (n.fraction.isSome ∨ n.exponent.isSome) ∧ IsNumeral (floatLayout.write x) n := by
  obtain ⟨mantissa, exponent, hmagnitude⟩ := magnitude_of_isFinite h
  have htext : floatLayout.write x =
      withSign (isNegative x) (floatLayout.digits (shortest mantissa exponent)) := by
    unfold FloatLayout.write
    rw [hmagnitude]
    rfl
  rw [htext]
  exact isNumeral_digits _ _

end Json

end Document

end SignalChain
