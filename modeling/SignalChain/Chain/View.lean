import SignalChain.Chain.Budget
import SignalChain.Rig.Validation

/-!
# Views

A rig as one of its snapshots shows it: the resolved chain, its budget and the
warnings of the validation.
-/

namespace SignalChain

inductive ViewError where
  | malformed (cause : StructureError)
deriving DecidableEq

def ViewError.message : ViewError -> String
  | .malformed cause => "malformed rig configuration: " ++ cause.message

structure View (ν : Type) where
  chain : ResolvedChain ν
  budget : Budget ν
  level : BudgetLevel
  warnings : List (Warning ν)
deriving BEq

/-- What views depend on besides the rig. -/
structure Engine (ν : Type) where
  matcher : Matcher
  ceiling : ν

namespace Engine

variable {ν : Type} [Amount ν]

/-- The engine that listings use, under the ceiling of the platform. -/
def standard : Engine ν :=
  ⟨Matcher.substring, Budget.platformCeiling⟩

def withCeiling (e : Engine ν) (ceiling : ν) : Engine ν :=
  { e with ceiling := ceiling }

def viewOf (e : Engine ν) (r : Rig ν) (stages : List ChainBlock)
    (warnings : List (Warning ν)) (index : Nat) : View ν :=
  let chain := r.resolveChain e.matcher stages index
  let budget := (Budget.ofBlocks r.costs chain.blocks).withCeiling e.ceiling
  { chain := chain
    budget := budget
    level := budget.level
    warnings := warnings }

def resolve (e : Engine ν) (r : Rig ν) (index : Nat) :
    Except ViewError (View ν) := do
  let warnings <- r.validate.mapError .malformed
  let stages <- r.assemble.mapError .malformed
  pure (e.viewOf r stages warnings index)

end Engine

end SignalChain
