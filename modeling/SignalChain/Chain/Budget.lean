import SignalChain.Chain.Resolution

/-!
# DSP budgets

What the stages of a chain cost together, and how close that comes to a
ceiling.  Every stage counts, whether it is on or off.
-/

namespace SignalChain

inductive BudgetLevel where
  | nominal
  | elevated
  | overBudget
deriving BEq, DecidableEq

namespace BudgetLevel

def label : BudgetLevel -> String
  | .nominal => "nominal"
  | .elevated => "elevated"
  | .overBudget => "over-budget"

variable {ν : Type} [Amount ν]

/-- The part of the ceiling from which a total is elevated. -/
def elevatedShare : ν :=
  0.9

/-- The part of the ceiling above which a total is over budget. -/
def overBudgetShare : ν :=
  1.5

def classify (total ceiling : ν) : BudgetLevel :=
  if Amount.isLess total (ceiling * elevatedShare) then .nominal
  else if Amount.isAtMost total (ceiling * overBudgetShare) then .elevated
  else .overBudget

end BudgetLevel

structure Budget (ν : Type) where
  total : ν
  perBlock : Table BlockId ν
  ceiling : ν
deriving BEq

namespace Budget

variable {ν : Type} [Amount ν]

def platformCeiling : ν :=
  100.0

def empty : Budget ν :=
  ⟨0, Table.empty, platformCeiling⟩

def withCeiling (b : Budget ν) (ceiling : ν) : Budget ν :=
  { b with ceiling := ceiling }

/-- Add to the cost of a block, which begins at zero. -/
def addCost (perBlock : Table BlockId ν) (id : BlockId) (cost : ν) :
    Table BlockId ν :=
  perBlock.insert id ((perBlock.get? id).getD 0 + cost)

def charge (b : Budget ν) (id : BlockId) (cost : ν) : Budget ν :=
  { b with
    total := b.total + cost
    perBlock := addCost b.perBlock id cost }

/-- Both budgets together, under the ceiling of the first. -/
def add (a b : Budget ν) : Budget ν where
  total := a.total + b.total
  perBlock :=
    b.perBlock.toList.foldl (fun t entry => addCost t entry.1 entry.2) a.perBlock
  ceiling := a.ceiling

instance : Add (Budget ν) :=
  ⟨add⟩

def ofBlocks (costs : CostTable ν) (blocks : List (ResolvedBlock ν)) :
    Budget ν :=
  blocks.foldl (fun b block => b.charge block.id (CostTable.costOf costs block.block.model)) empty

def level (b : Budget ν) : BudgetLevel :=
  BudgetLevel.classify b.total b.ceiling

def utilization (b : Budget ν) : ν :=
  if Amount.isLess 0 b.ceiling then b.total / b.ceiling else 0

def share (b : Budget ν) (id : BlockId) : ν :=
  match b.perBlock.get? id with
  | none => 0
  | some cost => if Amount.isLess 0 b.total then cost / b.total else 0

end Budget

end SignalChain
