import Mathlib.Tactic.Linarith
import SignalChain.Chain.Budget
import SignalChain.Proofs.Rig.Amount

/-!
# Levels and utilization

A level compares a total with two multiples of the ceiling, and the utilization
is the total as a part of the ceiling.  Under a positive ceiling both draw the
same boundaries, also for a total that lies right on one.  A level rises with the
total and falls with the ceiling, also where the ceiling is not positive and the
two multiples stand the other way round.
-/

namespace SignalChain

namespace BudgetLevel

/-! ## Levels in order -/

/-- How far a level is from the nominal one. -/
def severity : BudgetLevel → Nat
  | .nominal => 0
  | .elevated => 1
  | .overBudget => 2

/-- The worse level is the greater one. -/
instance : PartialOrder BudgetLevel :=
  PartialOrder.lift severity fun a b h => by
    cases a <;> cases b <;> first | rfl | cases h

theorem nominal_le (level : BudgetLevel) : nominal ≤ level :=
  Nat.zero_le level.severity

theorem le_overBudget (level : BudgetLevel) : level ≤ overBudget := by
  cases level <;> decide

theorem nominal_lt_elevated : nominal < elevated :=
  Nat.zero_lt_one

theorem elevated_lt_overBudget : elevated < overBudget :=
  Nat.one_lt_two

/-! ## The boundaries -/

theorem elevatedShare_eq : (elevatedShare : ℚ) = 9 / 10 := by
  norm_num [elevatedShare]

theorem overBudgetShare_eq : (overBudgetShare : ℚ) = 3 / 2 := by
  norm_num [overBudgetShare]

theorem classify_eq (total ceiling : ℚ) :
    classify total ceiling =
      if total < ceiling * elevatedShare then nominal
      else if total ≤ ceiling * overBudgetShare then elevated
      else overBudget := by
  simp only [classify, Amount.isLess_iff, Amount.isAtMost_iff]

theorem classify_eq_nominal_iff {total ceiling : ℚ} :
    classify total ceiling = nominal ↔ total < ceiling * elevatedShare := by
  rw [classify_eq]
  by_cases hlow : total < ceiling * elevatedShare
  · simp [hlow]
  · by_cases hwithin : total ≤ ceiling * overBudgetShare <;> simp [hlow, hwithin]

theorem classify_eq_elevated_iff {total ceiling : ℚ} :
    classify total ceiling = elevated ↔
      ceiling * elevatedShare ≤ total ∧ total ≤ ceiling * overBudgetShare := by
  rw [classify_eq]
  by_cases hlow : total < ceiling * elevatedShare
  · simp [hlow, not_le.2 hlow]
  · have hreached := not_lt.1 hlow
    by_cases hwithin : total ≤ ceiling * overBudgetShare <;> simp [hlow, hreached, hwithin]

/-- Above the second boundary a total is also above the first, unless the ceiling is negative. -/
theorem classify_eq_overBudget_iff {total ceiling : ℚ} (h : 0 ≤ ceiling) :
    classify total ceiling = overBudget ↔ ceiling * overBudgetShare < total := by
  have hboundaries : ceiling * elevatedShare ≤ ceiling * overBudgetShare := by
    rw [elevatedShare_eq, overBudgetShare_eq]
    linarith
  rw [classify_eq]
  by_cases hwithin : total ≤ ceiling * overBudgetShare
  · have hnot : ¬ ceiling * overBudgetShare < total := not_lt.2 hwithin
    by_cases hlow : total < ceiling * elevatedShare <;> simp [hlow, hwithin, hnot]
  · have habove : ceiling * overBudgetShare < total := not_le.1 hwithin
    have hlow : ¬ total < ceiling * elevatedShare := by linarith
    simp [hlow, hwithin, habove]

/-! ## Better and worse levels -/

/-- A total that stays below each boundary below which another one stays has no worse level. -/
theorem classify_le_classify {total ceiling total' ceiling' : ℚ}
    (hlow : total' < ceiling' * elevatedShare → total < ceiling * elevatedShare)
    (hwithin : total' ≤ ceiling' * overBudgetShare → total ≤ ceiling * overBudgetShare) :
    classify total ceiling ≤ classify total' ceiling' := by
  rw [classify_eq total, classify_eq total']
  by_cases hnominal : total' < ceiling' * elevatedShare
  · rw [if_pos (hlow hnominal)]
    exact nominal_le _
  · rw [if_neg hnominal]
    by_cases helevated : total' ≤ ceiling' * overBudgetShare
    · rw [if_pos helevated, if_pos (hwithin helevated)]
      split
      · exact nominal_le _
      · exact le_refl _
    · rw [if_neg helevated]
      exact le_overBudget _

theorem classify_mono (ceiling : ℚ) : Monotone fun total => classify total ceiling := by
  intro total larger hle
  apply classify_le_classify
  · intro hlow
    exact hle.trans_lt hlow
  · intro hwithin
    exact hle.trans hwithin

/-- Both boundaries rise with the ceiling, whichever of them is the higher one. -/
theorem classify_antitone (total : ℚ) : Antitone fun ceiling => classify total ceiling := by
  intro ceiling higher hle
  apply classify_le_classify
  · intro hlow
    rw [elevatedShare_eq] at hlow ⊢
    linarith
  · intro hwithin
    rw [overBudgetShare_eq] at hwithin ⊢
    linarith

end BudgetLevel

namespace Budget

open BudgetLevel

/-! ## Budgets -/

theorem utilization_of_pos {b : Budget ℚ} (h : 0 < b.ceiling) :
    b.utilization = b.total / b.ceiling :=
  if_pos (Amount.isLess_iff.2 h)

/-- What the utilization says of a budget, level by level. -/
structure LevelsAgree (b : Budget ℚ) : Prop where
  nominal_iff : b.level = nominal ↔ b.utilization < elevatedShare
  elevated_iff : b.level = elevated ↔
    elevatedShare ≤ b.utilization ∧ b.utilization ≤ overBudgetShare
  overBudget_iff : b.level = overBudget ↔ overBudgetShare < b.utilization

theorem levelsAgree_of_pos {b : Budget ℚ} (h : 0 < b.ceiling) : b.LevelsAgree where
  nominal_iff := by
    rw [utilization_of_pos h, div_lt_iff₀' h]
    exact classify_eq_nominal_iff
  elevated_iff := by
    rw [utilization_of_pos h, le_div_iff₀' h, div_le_iff₀' h]
    exact classify_eq_elevated_iff
  overBudget_iff := by
    rw [utilization_of_pos h, lt_div_iff₀' h]
    exact classify_eq_overBudget_iff h.le

theorem level_withCeiling_le {b : Budget ℚ} {ceiling : ℚ} (h : b.ceiling ≤ ceiling) :
    (b.withCeiling ceiling).level ≤ b.level :=
  classify_antitone b.total h

theorem level_le_add (a : Budget ℚ) {b : Budget ℚ} (h : 0 ≤ b.total) : a.level ≤ (a + b).level := by
  have htotal : a.total ≤ (a + b).total := le_add_of_nonneg_right h
  exact classify_mono a.ceiling htotal

/--
Under a positive ceiling the level and the utilization say the same.  Under any
ceiling a greater total has no better level and a higher ceiling gives no worse
one, so more room never makes a budget worse and more costs never make it better.
-/
theorem levels_follow_utilization :
    (∀ b : Budget ℚ, 0 < b.ceiling → b.LevelsAgree) ∧
    (nominal < elevated ∧ elevated < overBudget) ∧
    (∀ ceiling : ℚ, Monotone fun total => classify total ceiling) ∧
    (∀ total : ℚ, Antitone fun ceiling => classify total ceiling) ∧
    (∀ (b : Budget ℚ) (ceiling : ℚ), b.ceiling ≤ ceiling →
      (b.withCeiling ceiling).level ≤ b.level) ∧
    ∀ a b : Budget ℚ, 0 ≤ b.total → a.level ≤ (a + b).level := by
  refine ⟨?_, ⟨nominal_lt_elevated, elevated_lt_overBudget⟩, classify_mono, classify_antitone,
    ?_, ?_⟩
  · intro b h
    exact levelsAgree_of_pos h
  · intro b ceiling h
    exact level_withCeiling_le h
  · intro a b h
    exact a.level_le_add h

/-- A total right on the lower boundary, and a ceiling that rises from below zero. -/
theorem levels_follow_utilization_onBoundary :
    let b : Budget ℚ := ⟨90, Table.empty, 100⟩
    let owing : Budget ℚ := b.withCeiling (-40)
    (0 < b.ceiling ∧ b.LevelsAgree ∧ b.level = elevated) ∧
    (owing.ceiling ≤ 100 ∧ (owing.withCeiling 100).level ≤ owing.level) ∧
    (0 ≤ b.total ∧ b.level ≤ (b + b).level) := by
  intro b owing
  obtain ⟨hagree, -, -, -, hceiling, hadd⟩ := levels_follow_utilization
  have hpos : 0 < b.ceiling := by norm_num [b]
  have hhigher : owing.ceiling ≤ 100 := by norm_num [owing, withCeiling]
  have hnonneg : 0 ≤ b.total := by norm_num [b]
  refine ⟨⟨hpos, hagree b hpos, ?_⟩, ⟨hhigher, hceiling owing 100 hhigher⟩, hnonneg,
    hadd b b hnonneg⟩
  decide +kernel

end Budget

end SignalChain
