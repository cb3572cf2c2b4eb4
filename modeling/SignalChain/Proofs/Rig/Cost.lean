import SignalChain.Rig.Cost

/-!
# Which doubles can be counted

A double is compared with zero by its sign alone, and one comparison, that of
zero with the double, tells every order between the two.  A cost can be counted
if it is finite and not below zero; what cannot is told apart by its kind.
-/

namespace SignalChain

namespace CostTable

open Float.Model Float.Model.UnpackedFloat

/-! ## Doubles beside zero -/

theorem lt_iff_compare {x y : Float} :
    x < y ↔ x.toModel.unpack.compare y.toModel.unpack = some .lt := by
  have hcompare : x < y ↔ (x.toModel.unpack.compare y.toModel.unpack == some .lt) = true := by
    show decide (x.toModel < y.toModel) = true ↔ _
    rw [decide_eq_true_iff]
    rfl
  rw [hcompare]
  exact beq_iff_eq

theorem compare_zero_swap (u : UnpackedFloat) :
    u.compare (.zero .positive) = ((UnpackedFloat.zero .positive).compare u).map (·.swap) := by
  cases u with
  | notANumber => rfl
  | zero sign => cases sign <;> rfl
  | infinity sign => cases sign <;> rfl
  | finite sign mantissa exponent hpos => cases sign <;> rfl

variable {x : Float}

theorem zero_lt_iff :
    0 < x ↔ (UnpackedFloat.zero .positive).compare x.toModel.unpack = some .lt :=
  lt_iff_compare

theorem lt_zero_iff :
    x < 0 ↔ (UnpackedFloat.zero .positive).compare x.toModel.unpack = some .gt := by
  have hlt : x < 0 ↔ x.toModel.unpack.compare (.zero .positive) = some .lt := lt_iff_compare
  rw [hlt, compare_zero_swap, Option.map_eq_some_iff]
  constructor
  · rintro ⟨order, h, hswap⟩
    rw [h, Ordering.swap_eq_lt.1 hswap]
  · intro h
    exact ⟨.gt, h, rfl⟩

theorem beq_zero_iff :
    (x == 0) = true ↔ (UnpackedFloat.zero .positive).compare x.toModel.unpack = some .eq := by
  have heq : (x == 0) = true ↔ x.toModel.unpack.compare (.zero .positive) = some .eq := by
    show (x.toModel.unpack.compare (0 : Float).toModel.unpack == some .eq) = true ↔ _
    exact beq_iff_eq
  rw [heq, compare_zero_swap, Option.map_eq_some_iff]
  constructor
  · rintro ⟨order, h, hswap⟩
    rw [h, Ordering.swap_eq_eq.1 hswap]
  · intro h
    exact ⟨.eq, h, rfl⟩

theorem zero_le_iff : 0 ≤ x ↔ (x == 0) = true ∨ 0 < x := by
  have hle : 0 ≤ x ↔
      ((UnpackedFloat.zero .positive).compare x.toModel.unpack).any (·.isLE) = true := by
    show decide ((0 : Float).toModel ≤ x.toModel) = true ↔ _
    rw [decide_eq_true_iff]
    rfl
  rw [hle, beq_zero_iff, zero_lt_iff]
  cases (UnpackedFloat.zero .positive).compare x.toModel.unpack with
  | none => decide
  | some order => cases order <;> decide

theorem isNaN_iff :
    x.isNaN = true ↔ (UnpackedFloat.zero .positive).compare x.toModel.unpack = none := by
  show x.toModel.unpack.isNaN = true ↔ _
  cases x.toModel.unpack with
  | notANumber => decide
  | zero sign => cases sign <;> decide
  | infinity sign => cases sign <;> decide
  | finite sign mantissa exponent hpos =>
      cases sign <;> exact iff_of_false Bool.false_ne_true (Option.some_ne_none _)

/-- A double that is not a number is on neither side of zero. -/
theorem not_zero_le_iff : ¬ 0 ≤ x ↔ x < 0 ∨ x.isNaN = true := by
  rw [zero_le_iff, beq_zero_iff, zero_lt_iff, lt_zero_iff, isNaN_iff]
  cases (UnpackedFloat.zero .positive).compare x.toModel.unpack with
  | none => decide
  | some order => cases order <;> decide

theorem beq_zero_of_pos (h : 0 < x) : (x == 0) = false := by
  rw [← Bool.not_eq_true, beq_zero_iff, zero_lt_iff.1 h]
  decide

theorem isFinite_of_beq_zero (h : (x == 0) = true) : x.isFinite = true := by
  rw [beq_zero_iff] at h
  show x.toModel.unpack.isFinite = true
  cases hx : x.toModel.unpack with
  | zero sign => rfl
  | finite sign mantissa exponent hpos => rfl
  | notANumber =>
      rw [hx] at h
      cases h
  | infinity sign =>
      rw [hx] at h
      cases sign <;> cases h

theorem isFinite_eq_false_iff : x.isFinite = false ↔ x.isInf = true ∨ x.isNaN = true := by
  show x.toModel.unpack.isFinite = false ↔
    x.toModel.unpack.isInf = true ∨ x.toModel.unpack.isNaN = true
  cases x.toModel.unpack with
  | notANumber => decide
  | zero sign => cases sign <;> decide
  | infinity sign => cases sign <;> decide
  | finite sign mantissa exponent hpos =>
      show true = false ↔ false = true ∨ false = true
      decide

/-! ## Usable costs -/

variable {cost : Float}

theorem isUsable_iff : isUsable cost = true ↔ cost.isFinite = true ∧ 0 ≤ cost := by
  unfold isUsable
  rw [Bool.and_eq_true]
  exact and_congr_right fun _ => decide_eq_true_iff

/-- What counts is a zero of either sign, or positive and finite. -/
theorem isUsable_iff_zero_or_pos :
    isUsable cost = true ↔ (cost == 0) = true ∨ 0 < cost ∧ cost.isFinite = true := by
  rw [isUsable_iff, zero_le_iff]
  constructor
  · rintro ⟨hfinite, hzero | hpos⟩
    · exact Or.inl hzero
    · exact Or.inr ⟨hpos, hfinite⟩
  · rintro (hzero | ⟨hpos, hfinite⟩)
    · exact ⟨isFinite_of_beq_zero hzero, Or.inl hzero⟩
    · exact ⟨hfinite, Or.inr hpos⟩

theorem isUnusable_iff : isUsable cost = false ↔ cost < 0 ∨ cost.isFinite = false := by
  rw [← Bool.not_eq_true, isUsable_iff]
  constructor
  · intro h
    by_cases hfinite : cost.isFinite = true
    · have hbelow : ¬ 0 ≤ cost := fun hle => h ⟨hfinite, hle⟩
      exact (not_zero_le_iff.1 hbelow).imp_right fun hnan => isFinite_eq_false_iff.2 (Or.inr hnan)
    · exact Or.inr (Bool.eq_false_iff.2 hfinite)
  · rintro (hneg | hinfinite) ⟨hfinite, hle⟩
    · exact not_zero_le_iff.2 (Or.inl hneg) hle
    · rw [hfinite] at hinfinite
      cases hinfinite

theorem isUsable_eq_false_iff :
    isUsable cost = false ↔ cost < 0 ∨ cost.isInf = true ∨ cost.isNaN = true := by
  rw [isUnusable_iff, isFinite_eq_false_iff]

theorem isUsable_unmeasuredCost : isUsable (unmeasuredCost : Float) = true := by
  decide +kernel

end CostTable

end SignalChain
