import Mathlib.Data.Nat.Log
import Mathlib.Tactic.Ring
import SignalChain.Decimal.Reading

/-!
# The range of doubles

An operation on doubles stays finite as long as the exponents do.  Bounds on
the exponent are carried through rounding, packing, multiplication and
division, so that a 64-bit integer and its quotients by powers of ten are seen
to be finite.
-/

namespace SignalChain

namespace Decimal

open Float.Model Float.Model.UnpackedFloat

/--
Finite, and less than `2 ^ bound`.  The last bit weighs at most `2 ^ (bound - 53)`,
since that is what packing looks at.
-/
inductive Within (bound : Int) : UnpackedFloat → Prop where
  | zero {sign : Sign} : Within bound (.zero sign)
  | finite {sign : Sign} {mantissa : Nat} {exponent : Int} {hpos : 0 < mantissa}
      (total : totalExponent mantissa exponent ≤ bound)
      (last : exponent + 53 ≤ bound) :
      Within bound (.finite sign mantissa exponent hpos)

instance (bound : Int) (f : UnpackedFloat) : Decidable (Within bound f) :=
  match f with
  | .infinity _ => isFalse nofun
  | .notANumber => isFalse nofun
  | .zero _ => isTrue .zero
  | .finite _ mantissa exponent _ =>
      decidable_of_iff
        (totalExponent mantissa exponent ≤ bound ∧ exponent + 53 ≤ bound)
        ⟨fun h => .finite h.1 h.2, fun | .finite htotal hlast => ⟨htotal, hlast⟩⟩

theorem Within.isFinite {bound : Int} {f : UnpackedFloat}
    (h : Within bound f) : f.isFinite = true := by
  cases h <;> rfl

theorem Within.neg {bound : Int} {f : UnpackedFloat}
    (h : Within bound f) : Within bound f.neg := by
  cases h with
  | zero => exact .zero
  | finite htotal hlast => exact .finite htotal hlast

/-! ## Rounding -/

theorem mantissa_shiftRight (em : ExtendedMantissa) (places : Nat) :
    (em >>> places).mantissa = em.mantissa / 2 ^ places := by
  induction places with
  | zero =>
      simp [HShiftRight.hShiftRight, Nat.repeat]
  | succ places ih =>
      have hstep : (em >>> (places + 1)).mantissa = (em >>> places).mantissa / 2 := rfl
      rw [hstep, ih, Nat.div_div_eq_div_mul, Nat.pow_succ]

theorem roundedMantissa_le (em : ExtendedMantissa) :
    em.roundedMantissa ≤ em.mantissa + 1 := by
  obtain ⟨mantissa, roundBit, stickyBit⟩ := em
  cases roundBit <;> cases stickyBit <;>
    simp only [ExtendedMantissa.roundedMantissa, ExtendedMantissa.accuracy,
      Accuracy.roundToNearestEven] <;> omega

theorem mantissa_ofMantissaAndAccuracy (mantissa : Nat) (accuracy : Accuracy) :
    (ExtendedMantissa.ofMantissaAndAccuracy mantissa accuracy).mantissa =
      mantissa := by
  rcases accuracy with _ | order
  · rfl
  · cases order <;> rfl

theorem log2_add_one_le (n : Nat) : (n + 1).log2 ≤ n.log2 + 1 := by
  have hlt : n + 1 < 2 ^ (n.log2 + 2) := by
    have hn : n < 2 ^ (n.log2 + 1) := Nat.lt_log2_self
    have hpow : 2 ^ (n.log2 + 2) = 2 * 2 ^ (n.log2 + 1) := by ring
    omega
  have hlog : (n + 1).log2 < n.log2 + 2 :=
    (Nat.log2_lt (Nat.succ_ne_zero n)).2 hlt
  omega

theorem log2_mono {m n : Nat} (h : m ≤ n) : m.log2 ≤ n.log2 := by
  rw [Nat.log2_eq_log_two, Nat.log2_eq_log_two]
  exact Nat.log_mono_right h

theorem log2_div_two_pow (n places : Nat) :
    (n / 2 ^ places).log2 = n.log2 - places := by
  rw [Nat.log2_eq_log_two, Nat.log2_eq_log_two]
  induction places with
  | zero =>
      simp
  | succ places ih =>
      rw [Nat.pow_succ, ← Nat.div_div_eq_div_mul, Nat.log_div_base, ih]
      omega

theorem log2_shiftLeft {n : Nat} (h : n ≠ 0) (places : Nat) :
    (n <<< places).log2 = n.log2 + places := by
  induction places with
  | zero =>
      simp
  | succ places ih =>
      have hne : n <<< places ≠ 0 := by
        simp [Nat.shiftLeft_eq, h]
      rw [Nat.shiftLeft_succ, Nat.log2_two_mul hne, ih, Nat.add_assoc]

theorem log2_mul_le {m n : Nat} (hm : m ≠ 0) (hn : n ≠ 0) :
    (m * n).log2 ≤ m.log2 + n.log2 + 1 := by
  have hlt : m * n < 2 ^ (m.log2 + n.log2 + 2) := by
    calc
      m * n < 2 ^ (m.log2 + 1) * 2 ^ (n.log2 + 1) :=
        Nat.mul_lt_mul'' Nat.lt_log2_self Nat.lt_log2_self
      _ = 2 ^ (m.log2 + n.log2 + 2) := by ring
  have hlog : (m * n).log2 < m.log2 + n.log2 + 2 :=
    (Nat.log2_lt (Nat.mul_ne_zero hm hn)).2 hlt
  omega

theorem log2_div_le (m n : Nat) : (m / n).log2 ≤ m.log2 - n.log2 := by
  rcases Nat.eq_zero_or_pos n with rfl | hpos
  · simp
  · have hle : m / n ≤ m / 2 ^ n.log2 :=
      Nat.div_le_div_left (Nat.log2_self_le (Nat.ne_of_gt hpos)) (Nat.two_pow_pos _)
    rw [← log2_div_two_pow]
    exact log2_mono hle

theorem roundedMantissa_log2_le (em : ExtendedMantissa) :
    em.roundedMantissa.log2 ≤ em.mantissa.log2 + 1 :=
  Nat.le_trans (log2_mono (roundedMantissa_le em)) (log2_add_one_le _)

theorem targetExponent_binary64 (total : Int) :
    Format.binary64.targetExponent total = max (total - 53) (-1074) :=
  rfl

/-- Shifting to the right keeps the leading bit, as long as it is not shifted out. -/
theorem shiftToTargetExponent_bounds {mantissa : Nat} {exponent bound : Int}
    (accuracy : Accuracy) (hbound : -1021 ≤ bound)
    (htotal : totalExponent mantissa exponent ≤ bound)
    (hexponent : exponent + 53 ≤ bound) :
    let shifted :=
      shiftToTargetExponent Format.binary64 mantissa exponent accuracy
    totalExponent shifted.1.mantissa shifted.2 ≤ bound ∧
      shifted.2 + 53 ≤ bound := by
  simp only [shiftToTargetExponent, shiftToExponent, mantissa_shiftRight,
    mantissa_ofMantissaAndAccuracy, targetExponent_binary64, totalExponent,
    log2_div_two_pow] at htotal ⊢
  omega

/-- Rounding moves the leading bit by one place at most. -/
theorem within_roundWithAccuracy {mantissa : Nat} {exponent bound : Int}
    (sign : Sign) (accuracy : Accuracy) (hbound : -1021 ≤ bound)
    (htotal : totalExponent mantissa exponent ≤ bound)
    (hexponent : exponent + 53 ≤ bound) :
    Within (bound + 1)
      (roundWithAccuracy Format.binary64 sign mantissa exponent accuracy) := by
  have hfirst := shiftToTargetExponent_bounds accuracy hbound htotal hexponent
  generalize hshifted :
    shiftToTargetExponent Format.binary64 mantissa exponent accuracy = shifted at hfirst
  obtain ⟨em, e⟩ := shifted
  have hrounded : totalExponent em.roundedMantissa e ≤ bound + 1 := by
    have hlog := roundedMantissa_log2_le em
    simp only [totalExponent] at hfirst ⊢
    omega
  have hsecond := shiftToTargetExponent_bounds .exact (by omega) hrounded
    (by omega : e + 53 ≤ bound + 1)
  let final := shiftToTargetExponent Format.binary64 em.roundedMantissa e .exact
  have hround : roundWithAccuracy Format.binary64 sign mantissa exponent accuracy =
      if h : final.1.mantissa = 0 then .zero sign
      else .finite sign final.1.mantissa final.2 (Nat.pos_of_ne_zero h) := by
    unfold roundWithAccuracy
    rw [hshifted]
  by_cases hzero : final.1.mantissa = 0
  · rw [hround, dif_pos hzero]
    exact .zero
  · rw [hround, dif_neg hzero]
    exact .finite hsecond.1 hsecond.2

theorem log2_lt_of_toNat {width : Nat} (v : BitVec width) (h : 0 < width) :
    v.toNat.log2 < width := by
  rcases Nat.eq_zero_or_pos v.toNat with hzero | hpos
  · simpa [hzero] using h
  · exact (Nat.log2_lt (Nat.ne_of_gt hpos)).2 v.isLt

/-! ## The bits of a double -/

section Unpacking

variable {bits : BitVec 64}

/-- The exponent of all ones stands for what is not finite. -/
theorem isFinite_unpack_of_ones (h : @unpackExponent Format.binary64 bits = -1#11) :
    (UnpackedFloat.unpack Format.binary64 bits).isFinite = false := by
  have hunpack : UnpackedFloat.unpack Format.binary64 bits =
      if @unpackMantissa Format.binary64 bits = 0#52 then
        .infinity (Sign.ofBitVec (@unpackSign Format.binary64 bits))
      else .notANumber := if_pos h
  rw [hunpack]
  split <;> rfl

theorem unpack_zero (hexponent : @unpackExponent Format.binary64 bits = 0#11)
    (hmantissa : @unpackMantissa Format.binary64 bits = 0#52) :
    UnpackedFloat.unpack Format.binary64 bits =
      .zero (Sign.ofBitVec (@unpackSign Format.binary64 bits)) := by
  have hones : @unpackExponent Format.binary64 bits ≠ -1#11 := by
    rw [hexponent]
    decide
  exact (if_neg hones).trans ((if_pos hexponent).trans (dif_pos hmantissa))

/-- A number under the exponent zero has a mantissa without a leading bit. -/
theorem unpack_subnormal (hexponent : @unpackExponent Format.binary64 bits = 0#11)
    (hmantissa : @unpackMantissa Format.binary64 bits ≠ 0#52) :
    ∃ hpos, UnpackedFloat.unpack Format.binary64 bits =
      .finite (Sign.ofBitVec (@unpackSign Format.binary64 bits))
        (@unpackMantissa Format.binary64 bits).toNat (-1074) hpos := by
  have hones : @unpackExponent Format.binary64 bits ≠ -1#11 := by
    rw [hexponent]
    decide
  have hlast : ((@unpackExponent Format.binary64 bits).toNat : Int) -
      (Format.binary64.exponentBias + Format.binary64.mantissaBitsWithoutImplicit) + 1 =
      -1074 := by
    rw [hexponent]
    rfl
  rw [← hlast]
  exact ⟨_, (if_neg hones).trans ((if_pos hexponent).trans (dif_neg hmantissa))⟩

theorem unpack_normal (hones : @unpackExponent Format.binary64 bits ≠ -1#11)
    (hexponent : @unpackExponent Format.binary64 bits ≠ 0#11) :
    ∃ hpos, UnpackedFloat.unpack Format.binary64 bits =
      .finite (Sign.ofBitVec (@unpackSign Format.binary64 bits))
        (1#1 ++ @unpackMantissa Format.binary64 bits).toNat
        ((@unpackExponent Format.binary64 bits).toNat - 1075) hpos :=
  ⟨_, (if_neg hones).trans (if_neg hexponent)⟩

end Unpacking

theorem pack_finite (sign : Sign) (mantissa : Nat) (exponent : Int) (hpos : 0 < mantissa) :
    UnpackedFloat.pack Format.binary64 (.finite sign mantissa exponent hpos) =
      if 2048 ≤ (exponent + 1023 + 52).toNat + 1 then packedInfinity Format.binary64 sign
      else if mantissa.log2 + 1 = 53 then
        packComponents Format.binary64 sign (BitVec.ofNat 11 (exponent + 1023 + 52).toNat)
          (BitVec.ofNat 52 mantissa)
      else packComponents Format.binary64 sign 0#11 (BitVec.ofNat 52 mantissa) := rfl

/-- The exponent of a packed double is all that its size depends on. -/
theorem within_unpack {bits : BitVec 64} {bound : Int}
    (hlow : -1021 ≤ bound) (hhigh : bound ≤ 1024)
    (hexponent :
      ((@unpackExponent Format.binary64 bits).toNat : Int) ≤ bound + 1022) :
    Within bound (UnpackedFloat.unpack Format.binary64 bits) := by
  have hones : @unpackExponent Format.binary64 bits ≠ -1#11 := by
    intro hones
    rw [hones] at hexponent
    simp at hexponent
    omega
  by_cases hzero : @unpackExponent Format.binary64 bits = 0#11
  · by_cases hmantissa : @unpackMantissa Format.binary64 bits = 0#52
    · rw [unpack_zero hzero hmantissa]
      exact .zero
    · obtain ⟨hpos, hunpack⟩ := unpack_subnormal hzero hmantissa
      have hlog : (@unpackMantissa Format.binary64 bits).toNat.log2 < 52 :=
        log2_lt_of_toNat _ (by decide)
      rw [hunpack]
      refine .finite ?_ (by omega)
      simp only [totalExponent]
      omega
  · obtain ⟨hpos, hunpack⟩ := unpack_normal hones hzero
    have hlog : (1#1 ++ @unpackMantissa Format.binary64 bits).toNat.log2 < 53 :=
      log2_lt_of_toNat _ (by decide)
    rw [hunpack]
    refine .finite ?_ (by omega)
    simp only [totalExponent]
    omega

/-- A finite double does not have the exponent that stands for infinities. -/
theorem unpackExponent_ne_of_isFinite {x : Float} (h : x.isFinite = true) :
    @unpackExponent Format.binary64 x.toModel.toBits.toBitVec ≠ -1#11 := by
  intro hones
  have hself : (UnpackedFloat.unpack Format.binary64
      x.toModel.toBits.toBitVec).isFinite = true := h
  rw [isFinite_unpack_of_ones hones] at hself
  contradiction

theorem within_of_isFinite {x : Float} (h : x.isFinite = true) :
    Within 1024 x.toModel.unpack := by
  refine within_unpack (by decide) (by decide) ?_
  have hlt := (@unpackExponent Format.binary64 x.toModel.toBits.toBitVec).isLt
  have hnat := mt BitVec.eq_of_toNat_eq (unpackExponent_ne_of_isFinite h)
  simp at hlt hnat
  omega

/-- A packed number is as large as the exponent among its bits lets it be. -/
theorem within_unpack_pack {f : UnpackedFloat} {bound : Int}
    (hlow : -1021 ≤ bound) (hhigh : bound ≤ 1024)
    (hexponent : ((@unpackExponent Format.binary64
      (UnpackedFloat.pack Format.binary64 f)).toNat : Int) ≤ bound + 1022) :
    Within bound (Float.Model.pack f).unpack :=
  within_unpack hlow hhigh hexponent

/-- Packing looks at the last bit only; it drops what lies above 53 bits. -/
theorem within_pack_finite {sign : Sign} {mantissa : Nat} {exponent bound : Int}
    {hpos : 0 < mantissa} (hlast : exponent + 53 ≤ bound)
    (hlow : -1021 ≤ bound) (hhigh : bound ≤ 1024) :
    Within bound (Float.Model.pack (.finite sign mantissa exponent hpos)).unpack := by
  refine within_unpack_pack hlow hhigh ?_
  rw [pack_finite, if_neg (by omega)]
  split
  · simp
    omega
  · simp
    omega

theorem within_pack {f : UnpackedFloat} {bound : Int} (h : Within bound f)
    (hlow : -1021 ≤ bound) (hhigh : bound ≤ 1024) :
    Within bound (Float.Model.pack f).unpack := by
  cases h with
  | zero =>
      rename_i sign
      refine within_unpack_pack hlow hhigh ?_
      have hexponent : @unpackExponent Format.binary64
          (UnpackedFloat.pack Format.binary64 (.zero sign)) = 0#11 := by
        cases sign <;> rfl
      rw [hexponent]
      simp
      omega
  | finite htotal hlast =>
      exact within_pack_finite hlast hlow hhigh

/-- A number beyond the range is packed as an infinity, never as no number. -/
theorem isFinite_pack_or_isInf {f : UnpackedFloat} (h : f.isFinite = true) :
    (Float.Model.pack f).isFinite = true ∨ (Float.Model.pack f).isInf = true := by
  cases f with
  | infinity sign => cases h
  | notANumber => cases h
  | zero sign =>
      exact Or.inl (within_pack .zero (by decide : (-1021 : Int) ≤ 0) (by decide)).isFinite
  | finite sign mantissa exponent hpos =>
      by_cases hlast : exponent + 53 ≤ 1024
      · exact Or.inl (within_pack_finite hlast (by decide) (by decide)).isFinite
      · right
        show (UnpackedFloat.unpack Format.binary64 (UnpackedFloat.pack Format.binary64
          (.finite sign mantissa exponent hpos))).isInf = true
        rw [pack_finite, if_pos (by omega)]
        cases sign <;> rfl

/-! ## Operations -/

theorem isFinite_neg {x : Float} (h : x.isFinite = true) :
    (-x).isFinite = true :=
  (within_pack (within_of_isFinite h).neg (by decide) (by decide)).isFinite

theorem within_round {mantissa : Nat} {exponent bound : Int} (sign : Sign)
    (hbound : -1021 ≤ bound)
    (htotal : totalExponent mantissa exponent ≤ bound)
    (hexponent : exponent + 53 ≤ bound) (hpos : mantissa ≠ 0) :
    Within (bound + 1) (UnpackedFloat.round Format.binary64 sign mantissa exponent) := by
  simp only [UnpackedFloat.round, decreaseExponent]
  refine within_roundWithAccuracy sign .exact hbound ?_ (by omega)
  simp only [totalExponent, log2_shiftLeft hpos] at htotal ⊢
  omega

theorem within_ofNat {n bits : Nat} (h : n < 2 ^ bits) (hbits : 53 ≤ bits) :
    Within (bits + 1) (UnpackedFloat.ofNat Format.binary64 n) := by
  rcases Nat.eq_zero_or_pos n with rfl | hpos
  · exact .zero
  · have hlog : n.log2 < bits := (Nat.log2_lt (Nat.ne_of_gt hpos)).2 h
    have hgt : compare (n : Int) 0 = .gt := by
      rw [Int.compare_eq_gt]
      omega
    simp only [UnpackedFloat.ofNat, UnpackedFloat.ofInt, UnpackedFloat.normalize, hgt]
    refine within_round _ (by omega) ?_ (by omega) (by simp; omega)
    simp [totalExponent]
    omega

theorem within_mul {f g : UnpackedFloat} {bound other : Int} (hf : Within bound f)
    (hg : Within other g) (hlow : -1021 ≤ bound + other) :
    Within (bound + other + 1) (UnpackedFloat.mul Format.binary64 f g) := by
  cases hf with
  | zero =>
      cases hg with
      | zero => exact .zero
      | finite => exact .zero
  | finite htotal hlast =>
      cases hg with
      | zero => exact .zero
      | finite htotal' hlast' =>
          rename_i m e hm _ n d hn
          have hlog := log2_mul_le (Nat.ne_of_gt hm) (Nat.ne_of_gt hn)
          refine within_roundWithAccuracy _ .exact hlow ?_ (by omega)
          simp only [totalExponent] at htotal htotal' ⊢
          omega

/-- Finite, and at least `2 ^ (bound - 1)` up to the sign. -/
inductive Reaches (bound : Int) : UnpackedFloat → Prop where
  | finite {sign : Sign} {mantissa : Nat} {exponent : Int} {hpos : 0 < mantissa}
      (total : bound ≤ totalExponent mantissa exponent) :
      Reaches bound (.finite sign mantissa exponent hpos)

theorem Reaches.isFinite {bound : Int} {f : UnpackedFloat} (h : Reaches bound f) :
    f.isFinite = true := by
  cases h
  rfl

instance (bound : Int) (f : UnpackedFloat) : Decidable (Reaches bound f) :=
  match f with
  | .infinity _ => isFalse nofun
  | .notANumber => isFalse nofun
  | .zero _ => isFalse nofun
  | .finite _ mantissa exponent _ =>
      decidable_of_iff (bound ≤ totalExponent mantissa exponent)
        ⟨.finite, fun | .finite htotal => htotal⟩

/-- A divisor of at least two makes up for what rounding may add. -/
theorem within_div {f g : UnpackedFloat} (hf : Within 1024 f) (hg : Reaches 2 g) :
    Within 1024 (UnpackedFloat.div Format.binary64 f g) := by
  obtain ⟨hdivisor⟩ := hg
  rename_i n d hn
  cases hf with
  | zero => exact .zero
  | finite htotal hlast =>
      rename_i m e hm
      let quotient := divCore Format.binary64 m e n d
      show Within (1023 + 1)
        (roundWithAccuracy Format.binary64 _ quotient.1 quotient.2.1 quotient.2.2)
      simp only [quotient, divCore]
      refine within_roundWithAccuracy _ _ (by decide) ?_ ?_
      · generalize hshift : (e - d - min (e - d) _).toNat = shift
        have hlog := log2_div_le (m <<< shift) n
        rw [log2_shiftLeft (Nat.ne_of_gt hm)] at hlog
        simp only [targetExponent_binary64, totalExponent]
          at htotal hdivisor hlog hshift ⊢
        omega
      · simp only [targetExponent_binary64]
        omega

theorem isFinite_div {x y : Float} (hx : x.isFinite = true)
    (hy : Reaches 2 y.toModel.unpack) : (x / y).isFinite = true :=
  (within_pack (within_div (within_of_isFinite hx) hy) (by decide) (by decide)).isFinite

theorem within_ofScientific {n : Nat} (h : n < 2 ^ 64) :
    Within 118 (UnpackedFloat.ofScientific Format.binary64 n 0) := by
  by_cases hzero : n = 0
  · rw [UnpackedFloat.ofScientific, dif_pos hzero]
    exact .zero
  · have hlog : n.log2 < 64 := (Nat.log2_lt hzero).2 h
    have hbits : (Format.binary64.mantissaBits : Int) = 53 := rfl
    rw [UnpackedFloat.ofScientific, dif_neg hzero, if_neg (by decide),
      if_neg (by simp), if_pos (by decide)]
    show Within (64 + 53 + 1) _
    refine within_mul (.finite ?_ ?_) (.finite (by decide) (by decide)) (by decide)
    · simp only [totalExponent, log2_shiftLeft hzero, hbits]
      omega
    · omega

theorem isFinite_ofNat {n : Nat} (h : n < 2 ^ 64) : (Float.ofNat n).isFinite = true := by
  show (Float.ofScientific n false 0).isFinite = true
  unfold Float.ofScientific
  split
  · next hsmall =>
      -- The integer as a double, times the first power of ten of a table.
      have hsize : n.toUInt64.toNat = n := by
        simp
        omega
      have hwhole : Within 54 n.toUInt64.toFloat.toModel.unpack := by
        refine within_pack ?_ (by decide) (by decide)
        rw [UnpackedFloat.ofUInt64, hsize]
        exact within_ofNat hsmall.1 (Nat.le_refl 53)
      have hone : Within 54 (Float.ofBits 0x3FF0000000000000).toModel.unpack := by
        decide +kernel
      have hproduct := within_mul hwhole hone (by decide)
      exact (within_pack hproduct (by decide) (by decide)).isFinite
  · exact (within_pack (within_ofScientific h) (by decide) (by decide)).isFinite

theorem isFinite_ofInt {n : Int} (hlow : -2 ^ 64 < n) (hhigh : n < 2 ^ 64) :
    (Float.ofInt n).isFinite = true := by
  cases n with
  | ofNat n =>
      have hn : n < 2 ^ 64 := Int.ofNat_lt.1 hhigh
      exact isFinite_ofNat hn
  | negSucc n =>
      have hn : n.succ < 2 ^ 64 := by omega
      exact isFinite_neg (isFinite_ofNat hn)

theorem isFinite_mul_of_isInf {x y : Float} (hx : x.isFinite = true)
    (hy : y.isFinite = true) (h : (x * y).isInf = false) : (x * y).isFinite = true := by
  have hproduct : (UnpackedFloat.mul Format.binary64 x.toModel.unpack
      y.toModel.unpack).isFinite = true :=
    (within_mul (within_of_isFinite hx) (within_of_isFinite hy) (by decide)).isFinite
  rcases isFinite_pack_or_isInf hproduct with hfinite | hinf
  · exact hfinite
  · exact absurd (h.symm.trans hinf) Bool.false_ne_true

/-! ## Powers of ten -/

theorem powerOfTen_reaches :
    ∀ places < 309, 0 < places → Reaches 2 (powerOfTen places).toModel.unpack := by
  decide +kernel

theorem isFinite_powerOfTen {places : Nat} (h : places ≤ 308) :
    (powerOfTen places).isFinite = true := by
  rcases Nat.eq_zero_or_pos places with rfl | hpos
  · decide +kernel
  · exact (powerOfTen_reaches places (by omega) hpos).isFinite

end Decimal

end SignalChain
