import SignalChain.Proofs.Decimal.Range

/-!
# Packing a finite double

A finite double is packed to the bits that it was unpacked from.  Adding it to
zero takes it through both, and gives a double that is equal to it.  Only the
sign of a zero may be lost.
-/

namespace SignalChain

namespace Decimal

open Float.Model Float.Model.UnpackedFloat

/-! ## The three fields of the bits -/

theorem toBitVec_ofBitVec : ∀ b : BitVec 1, (Sign.ofBitVec b).toBitVec = b := by
  decide

theorem packComponents_fields (bits : BitVec 64) :
    packComponents Format.binary64 (Sign.ofBitVec (@unpackSign Format.binary64 bits))
      (unpackExponent bits) (unpackMantissa bits) = bits := by
  have hsign : @unpackSign Format.binary64 bits = bits.extractLsb' 63 1 := rfl
  have hexponent : @unpackExponent Format.binary64 bits = bits.extractLsb' 52 11 := rfl
  have hmantissa : @unpackMantissa Format.binary64 bits = bits.extractLsb' 0 52 := rfl
  have hupper : bits.extractLsb' 63 1 ++ bits.extractLsb' 52 11 = bits.extractLsb' 52 12 :=
    BitVec.extractLsb'_append_extractLsb'_eq_extractLsb' rfl
  have hall : bits.extractLsb' 52 12 ++ bits.extractLsb' 0 52 = bits.extractLsb' 0 64 :=
    BitVec.extractLsb'_append_extractLsb'_eq_extractLsb' rfl
  show (Sign.ofBitVec (@unpackSign Format.binary64 bits)).toBitVec ++
    @unpackExponent Format.binary64 bits ++ @unpackMantissa Format.binary64 bits = bits
  rw [toBitVec_ofBitVec, hsign, hexponent, hmantissa, hupper, hall]
  exact BitVec.extractLsb'_eq_self

/-! ## Finite numbers -/

/-- A mantissa without a leading bit is packed under the exponent zero. -/
theorem pack_subnormal {mantissa : BitVec 52} (h : 0 < mantissa.toNat) (sign : Sign) :
    UnpackedFloat.pack Format.binary64 (.finite sign mantissa.toNat (-1074) h) =
      packComponents Format.binary64 sign 0#11 mantissa := by
  have hlog := log2_lt_of_toNat mantissa (by decide)
  rw [pack_finite, if_neg (by decide), if_neg (by omega), BitVec.ofNat_toNat, BitVec.setWidth_eq]

/-- A mantissa with its leading bit is packed without it. -/
theorem pack_normal {mantissa : BitVec 52} {exponent : BitVec 11} (hones : exponent ≠ -1#11)
    (sign : Sign) (h : 0 < (1#1 ++ mantissa).toNat) :
    UnpackedFloat.pack Format.binary64
        (.finite sign (1#1 ++ mantissa).toNat ((exponent.toNat : Int) - 1075) h) =
      packComponents Format.binary64 sign exponent mantissa := by
  have hlead : (1#1 ++ mantissa).toNat = 2 ^ 52 + mantissa.toNat := by
    rw [BitVec.toNat_append, ← Nat.shiftLeft_add_eq_or_of_lt mantissa.isLt]
    rfl
  have hlog : (1#1 ++ mantissa).toNat.log2 + 1 = 53 := by
    have hlow : 52 ≤ (1#1 ++ mantissa).toNat.log2 := (Nat.le_log2 (by omega)).2 (by omega)
    have hhigh := log2_lt_of_toNat (1#1 ++ mantissa) (by decide)
    omega
  have hbiased : ((exponent.toNat : Int) - 1075 + 1023 + 52).toNat = exponent.toNat := by
    omega
  have hsmall : ¬ 2048 ≤ exponent.toNat + 1 := by
    have hlt := exponent.isLt
    have hnat := mt BitVec.eq_of_toNat_eq hones
    simp at hlt hnat ⊢
    omega
  rw [pack_finite, hbiased, if_neg hsmall, if_pos hlog, BitVec.ofNat_toNat, BitVec.setWidth_eq]
  congr 1
  apply BitVec.eq_of_toNat_eq
  rw [BitVec.toNat_ofNat, hlead]
  have hlt := mantissa.isLt
  simp
  omega

theorem pack_unpack {bits : BitVec 64} (h : @unpackExponent Format.binary64 bits ≠ -1#11) :
    UnpackedFloat.pack Format.binary64 (UnpackedFloat.unpack Format.binary64 bits) = bits := by
  have hfields := packComponents_fields bits
  by_cases hzero : @unpackExponent Format.binary64 bits = 0#11
  · rw [hzero] at hfields
    by_cases hmantissa : @unpackMantissa Format.binary64 bits = 0#52
    · rw [hmantissa] at hfields
      rw [unpack_zero hzero hmantissa]
      exact hfields
    · obtain ⟨hpos, hunpack⟩ := unpack_subnormal hzero hmantissa
      rw [hunpack, pack_subnormal hpos]
      exact hfields
  · obtain ⟨hpos, hunpack⟩ := unpack_normal h hzero
    rw [hunpack, pack_normal h]
    exact hfields

/-! ## Adding to zero -/

theorem model_eq_of_toBits {a b : Float.Model} (h : a.toBits = b.toBits) : a = b := by
  obtain ⟨bits, valid⟩ := a
  obtain ⟨others, hothers⟩ := b
  obtain rfl : bits = others := h
  rfl

theorem pack_unpack_toModel {x : Float} (h : x.isFinite = true) :
    Float.Model.pack x.toModel.unpack = x.toModel :=
  model_eq_of_toBits
    (congrArg UInt64.ofBitVec (pack_unpack (unpackExponent_ne_of_isFinite h)))

/-- A finite double is a zero or has a mantissa. -/
theorem unpack_of_isFinite {x : Float} (h : x.isFinite = true) :
    (∃ sign, x.toModel.unpack = .zero sign) ∨
      ∃ sign mantissa exponent hpos, x.toModel.unpack = .finite sign mantissa exponent hpos := by
  have hfinite : x.toModel.unpack.isFinite = true := h
  cases hx : x.toModel.unpack with
  | infinity sign =>
      rw [hx] at hfinite
      cases hfinite
  | notANumber =>
      rw [hx] at hfinite
      cases hfinite
  | zero sign => exact Or.inl ⟨sign, rfl⟩
  | finite sign mantissa exponent hpos => exact Or.inr ⟨sign, mantissa, exponent, hpos, rfl⟩

theorem compare_finite_self (sign : Sign) (mantissa : Nat) (exponent : Int) (hpos : 0 < mantissa) :
    (UnpackedFloat.finite sign mantissa exponent hpos).compare
      (.finite sign mantissa exponent hpos) = some .eq := by
  have heq : (compare exponent exponent).then (compare mantissa mantissa) = .eq := by simp
  cases sign with
  | positive => exact congrArg some heq
  | negative => exact congrArg (fun o => some o.swap) heq

theorem beq_self_of_isFinite {x : Float} (h : x.isFinite = true) : (x == x) = true := by
  show (x.toModel.unpack.compare x.toModel.unpack == some .eq) = true
  rcases unpack_of_isFinite h with ⟨sign, hx⟩ | ⟨sign, mantissa, exponent, hpos, hx⟩
  · rw [hx]
    rfl
  · rw [hx, compare_finite_self]
    rfl

theorem zero_add_beq_self {x : Float} (h : x.isFinite = true) : (0 + x == x) = true := by
  have hsum : (0 + x).toModel =
      Float.Model.pack (UnpackedFloat.add Format.binary64 (.zero .positive) x.toModel.unpack) := rfl
  rcases unpack_of_isFinite h with ⟨sign, hx⟩ | ⟨sign, mantissa, exponent, hpos, hx⟩
  · show ((0 + x).toModel.unpack.compare x.toModel.unpack == some .eq) = true
    rw [hsum, hx]
    cases sign <;> decide +kernel
  · have hself : (0 + x).toModel = x.toModel := by
      rw [hsum, hx]
      show Float.Model.pack (.finite sign mantissa exponent hpos) = x.toModel
      rw [← hx, pack_unpack_toModel h]
    have hx' : 0 + x = x := congrArg Float.ofModel hself
    rw [hx']
    exact beq_self_of_isFinite h

end Decimal

end SignalChain
