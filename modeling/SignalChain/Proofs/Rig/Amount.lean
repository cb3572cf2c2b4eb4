import Mathlib.Algebra.Order.Field.Rat
import SignalChain.Proofs.Decimal.Packing
import SignalChain.Rig.Cost

/-!
# Doubles and exact amounts

Runs count costs in doubles, and the laws of exact arithmetic are stated over
the rational numbers.  With either, a cost that was charged to nothing before is
charged as it is, up to the sign of a zero, and what a model is counted with is
never negative.
-/

namespace SignalChain

/-- Every rational number is finite. -/
instance : Amount ℚ where
  isFinite := fun _ => true
  isLess := fun a b => decide (a < b)
  isAtMost := fun a b => decide (a ≤ b)

theorem Amount.isLess_iff {a b : ℚ} : Amount.isLess a b = true ↔ a < b :=
  decide_eq_true_iff

theorem Amount.isAtMost_iff {a b : ℚ} : Amount.isAtMost a b = true ↔ a ≤ b :=
  decide_eq_true_iff

/-- Amounts of which zero is one that counts, and to which zero adds nothing. -/
class LawfulAmount (ν : Type) [Amount ν] : Prop where
  isUsable_zero : CostTable.isUsable (0 : ν) = true
  zero_add_beq : ∀ {cost : ν}, CostTable.isUsable cost = true → (0 + cost == cost) = true

instance : LawfulAmount Float where
  isUsable_zero := by decide +kernel
  zero_add_beq h := Decimal.zero_add_beq_self (Bool.and_eq_true_iff.1 h).1

instance : LawfulAmount ℚ where
  isUsable_zero := rfl
  zero_add_beq {cost} _ := beq_iff_eq.2 (zero_add cost)

namespace CostTable

/--
What a model is counted with: the cost that the table lists, if it is finite and
not negative, and nothing otherwise.
-/
inductive Counts {ν : Type} [Amount ν] (costs : CostTable ν) (model : String) : ν → Prop where
  | listed {cost : ν} (h : costs.get? model = some cost) (finite : Amount.isFinite cost = true)
      (nonneg : Amount.isAtMost 0 cost = true) : Counts costs model cost
  | unusable {cost : ν} (h : costs.get? model = some cost)
      (h' : ¬ (Amount.isFinite cost = true ∧ Amount.isAtMost 0 cost = true)) :
      Counts costs model 0
  | unlisted (h : costs.get? model = none) : Counts costs model 0

variable {ν : Type} [Amount ν]

theorem counts_costOf (costs : CostTable ν) (model : String) :
    costs.Counts model (costOf costs model) := by
  unfold costOf
  cases h : costs.get? model with
  | none => exact .unlisted h
  | some cost =>
      by_cases husable : isUsable cost = true
      · obtain ⟨hfinite, hnonneg⟩ := Bool.and_eq_true_iff.1 husable
        simp only [husable, if_true]
        exact .listed h hfinite hnonneg
      · simp only [husable]
        exact .unusable h (fun hboth => husable (Bool.and_eq_true_iff.2 hboth))

theorem isUsable_costOf [LawfulAmount ν] (costs : CostTable ν) (model : String) :
    isUsable (costOf costs model) = true := by
  unfold costOf
  split
  · exact LawfulAmount.isUsable_zero
  · next cost _ =>
      by_cases husable : isUsable cost = true
      · rwa [if_pos husable]
      · rw [if_neg husable]
        exact LawfulAmount.isUsable_zero

theorem costOf_nonneg (costs : CostTable ℚ) (model : String) : 0 ≤ costOf costs model := by
  obtain ⟨-, hnonneg⟩ := Bool.and_eq_true_iff.1 (isUsable_costOf costs model)
  exact of_decide_eq_true hnonneg

end CostTable

end SignalChain
