import SignalChain.Chain.View
import SignalChain.Settings
import SignalChain.Text.Column

/-!
# Reports

The lines that commands print.
-/

namespace SignalChain

namespace Command

open Text

/-- Cells of a table, two blanks apart and two blanks from the edge. -/
def row (cells : List String) : String :=
  String.join (cells.map (fun cell => "  " ++ cell))

def costCell (cost : Float) : String :=
  atRight 6 (Decimal.fixedText 1 cost)

def countText (n : Nat) : String :=
  String.ofList (Decimal.natText n)

/-! ## A chain -/

def titleOf (r : Rig Float) : String :=
  r.name.getD "(unnamed rig)"

/-- The title, underlined by its bytes. -/
def titleLines (title : String) : List String :=
  [title, String.ofList (List.replicate title.utf8ByteSize '=')]

def snapshotLine (index : Nat) : Option SnapshotSummary -> String
  | some s => "Snapshot " ++ countText s.index ++ ": " ++ s.name
  | none => "Snapshot " ++ countText index ++ ": (none, stored state)"

def chainHeader : String :=
  row [atLeft 3 "#", atLeft 4 "Type", atLeft 28 "Block", atLeft 3 "On",
    atLeft 9 "Source", atLeft 6 "DSP", "Channel"]

/-- A stage in its line; a star marks what the design changes. -/
def stageLine (index : Nat) (b : ResolvedBlock Float) : String :=
  row [atRight 3 (countText index), atLeft 4 b.category.label,
    atLeft 28 (b.displayName ++ (if b.designShift then "*" else "")),
    atLeft 3 (if b.enabled then "on" else "off"), atLeft 9 b.source.label,
    costCell b.cost, b.channelLabel]

def paramLines (b : ResolvedBlock Float) : List String :=
  b.params.toList.map (fun (name, value) =>
    "         " ++ name ++ " = " ++ value.display ++
      (if b.snapshotControlled.contains name then " (snapshot)" else ""))

def stageLines (withParams : Bool) (index : Nat) :
    List (ResolvedBlock Float) -> List String
  | [] => []
  | b :: rest =>
      stageLine index b :: (if withParams then paramLines b else []) ++
        stageLines withParams (index + 1) rest

def totalLine (v : View Float) : String :=
  "DSP: " ++ Decimal.fixedText 1 v.budget.total ++ " / " ++
    Decimal.fixedText 1 v.budget.ceiling ++ " (" ++ v.level.label ++ ")"

def viewLines (title : String) (index : Nat) (withParams : Bool)
    (v : View Float) : List String :=
  titleLines title ++ [snapshotLine index v.chain.snapshot, "", chainHeader] ++
    stageLines withParams 0 v.chain.blocks ++ ["", totalLine v]

/-! ## Snapshots -/

def snapshotLines (index : Nat) (s : Snapshot) : List String :=
  let active := (s.hint.map Hint.activeBlocks).getD []
  row [atRight 2 (countText index), atLeft 20 s.name, s.sourceLabel] ::
    if active.isEmpty then []
    else ["      active: " ++ String.intercalate ", " active]

def snapshotLinesFrom (index : Nat) : List Snapshot -> List String
  | [] => []
  | s :: rest => snapshotLines index s ++ snapshotLinesFrom (index + 1) rest

def snapshotListing (snapshots : List Snapshot) : List String :=
  "Snapshots:" ::
    if snapshots.isEmpty then ["  (none)"] else snapshotLinesFrom 0 snapshots

/-! ## A budget -/

def budgetLine (budget : Budget Float) (b : ResolvedBlock Float) : String :=
  row [atLeft 28 b.displayName, costCell b.cost,
    atRight 5 (Decimal.fixedText 1 (budget.share b.id * 100.0)) ++ "%"]

def budgetLines (v : View Float) : List String :=
  row [atLeft 28 "Block", atLeft 6 "DSP", atRight 6 "Share"] ::
    v.chain.blocks.map (budgetLine v.budget) ++
    ["", "Total:       " ++ Decimal.fixedText 1 v.budget.total,
      "Ceiling:     " ++ Decimal.fixedText 1 v.budget.ceiling,
      "Utilization: " ++ Decimal.fixedText 0 (v.budget.utilization * 100.0) ++
        "%",
      "Level:       " ++ v.budget.level.label]

/-! ## Models of an instrument -/

def modelLine (family : InstrumentFamily) (id : UInt32) : String :=
  let number := atRight 4 (countText id.toNat)
  let name := InstrumentModel.nameOf family id
  match InstrumentModel.slot? id with
  | none => number ++ "  " ++ name
  | some slot =>
      number ++ "  " ++ atLeft 16 name ++ "  bank " ++
        countText slot.bank.toNat ++ " variant " ++
        countText slot.variant.toNat

def bankLines (family : InstrumentFamily) (bank : Nat) (name : String) :
    List String :=
  let size := InstrumentModel.bankSize.toNat
  ("  -- " ++ name) ::
    (List.range size).map (fun place =>
      let id := bank * size + place + 1
      row [atRight 4 (countText id),
        InstrumentModel.nameOf family (UInt32.ofNat id)])

def familyLines (family : InstrumentFamily) : List String :=
  (family.text ++ " models:") :: row [atLeft 4 "ID", "Name"] ::
    ((InstrumentModel.bankNames family).zipIdx.flatMap
      (fun (name, bank) => bankLines family bank name))

/-! ## Settings -/

def settingsLines (path : String) (found : Bool) (s : Settings) : List String :=
  ("Settings file: " ++ path) ::
    (if found then [] else ["  (not found, using defaults)"]) ++
    ["  instrument_family = " ++ s.family.text,
      "  platform_ceiling  = " ++ Decimal.fixedText 1 s.ceiling,
      "  default_snapshot  = " ++ countText s.snapshot]

end Command

end SignalChain
