import SignalChain.Table

/-!
# DSP costs

What each model costs, in per cent of one DSP.  Costs and budgets are defined
over any type of amounts: runs use doubles, and laws of exact arithmetic are
stated over the rational numbers.
-/

namespace SignalChain

/-- Numbers that costs can be measured in. -/
class Amount (ν : Type) extends Zero ν, Add ν, Mul ν, Div ν, BEq ν,
    OfScientific ν where
  isFinite : ν -> Bool
  isLess : ν -> ν -> Bool
  isAtMost : ν -> ν -> Bool

instance : Amount Float where
  isFinite := Float.isFinite
  isLess := fun a b => decide (a < b)
  isAtMost := fun a b => decide (a <= b)

structure CatalogEntry (ν : Type) where
  internalName : String
  name : String
  basedOn : String
  monoCost : ν
  stereoCost : ν
deriving BEq

abbrev CostTable (ν : Type) :=
  Table String ν

namespace CostTable

variable {ν : Type} [Amount ν]

/-- The cost of a model whose mono cost the catalog gives as zero. -/
def unmeasuredCost : ν :=
  3.0

def catalogCost (entry : CatalogEntry ν) : ν :=
  if entry.monoCost == 0 then unmeasuredCost else entry.monoCost

/-- The costs of a catalog; of two entries for a model the last counts. -/
def ofCatalog (entries : List (CatalogEntry ν)) : CostTable ν :=
  Table.ofList
    (entries.map (fun entry => (entry.internalName, catalogCost entry)))

/-- Whether a cost can be counted: finite and not negative. -/
def isUsable (cost : ν) : Bool :=
  Amount.isFinite cost && Amount.isAtMost 0 cost

/-- The cost that a model is counted with; without a usable one it is zero. -/
def costOf (costs : CostTable ν) (model : String) : ν :=
  match costs.get? model with
  | none => 0
  | some cost => if isUsable cost then cost else 0

end CostTable

end SignalChain
