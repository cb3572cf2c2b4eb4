import SignalChain.Table

/-!
# The two signal paths

A rig runs on two parallel DSP paths.  What is told per block is kept by path
and, on a path, by the key of the block.
-/

namespace SignalChain

inductive DspPath where
  | path0
  | path1
deriving DecidableEq, BEq, Repr

namespace DspPath

def all : List DspPath :=
  [.path0, .path1]

def index : DspPath -> Nat
  | .path0 => 0
  | .path1 => 1

def text : DspPath -> String
  | .path0 => "path0"
  | .path1 => "path1"

end DspPath

/-- Something for some of the blocks of each path. -/
structure PerPath (α : Type) where
  path0 : Table String α
  path1 : Table String α
deriving BEq

namespace PerPath

variable {α : Type}

def empty : PerPath α :=
  ⟨Table.empty, Table.empty⟩

def onPath (m : PerPath α) : DspPath -> Table String α
  | .path0 => m.path0
  | .path1 => m.path1

def setPath (m : PerPath α) (path : DspPath) (entries : Table String α) :
    PerPath α :=
  match path with
  | .path0 => { m with path0 := entries }
  | .path1 => { m with path1 := entries }

def get? (m : PerPath α) (path : DspPath) (key : String) : Option α :=
  (m.onPath path).get? key

def insert (m : PerPath α) (path : DspPath) (key : String) (value : α) :
    PerPath α :=
  m.setPath path ((m.onPath path).insert key value)

/-- All that is told, the first path first and by key on each. -/
def toList (m : PerPath α) : List (DspPath × String × α) :=
  DspPath.all.flatMap
    (fun path => (m.onPath path).toList.map (fun entry => (path, entry)))

@[simp] theorem onPath_setPath (m : PerPath α) (path other : DspPath)
    (entries : Table String α) :
    (m.setPath path entries).onPath other =
      if other = path then entries else m.onPath other := by
  cases path <;> cases other <;> rfl

theorem get?_insert (m : PerPath α) (path other : DspPath)
    (key name : String) (value : α) :
    (m.insert path key value).get? other name =
      if other = path ∧ name = key then some value
      else m.get? other name := by
  by_cases hp : other = path
  · subst hp
    simp [insert, get?]
  · simp [insert, get?, hp]

/-! ## A table per block -/

/-- Store an entry in the table of one block, which may not exist yet. -/
def insertIn (m : PerPath (Table String α)) (path : DspPath)
    (key name : String) (value : α) : PerPath (Table String α) :=
  m.insert path key (((m.get? path key).getD Table.empty).insert name value)

def getIn? (m : PerPath (Table String α)) (path : DspPath)
    (key name : String) : Option α :=
  (m.get? path key).bind (fun t => t.get? name)

end PerPath

end SignalChain
