import SignalChain.Proofs.Document.Json
import SignalChain.Record.Catalog
import SignalChain.Record.Design
import SignalChain.Record.Rig

/-!
# Records that a format can carry

JSON has no infinities and TOML has no null and no integers of more than 63
bits, so not every record has a text.  A controller of number nine is the
snapshot controller, and no other controller may bear its number.
-/

namespace SignalChain

open Document

/-- Values that come back from a text of a format. -/
class Portable (α : Type) where
  IsPortable : Format → α → Prop

export Portable (IsPortable)

/-- Types of which every value comes back. -/
class AlwaysPortable (α : Type) [Portable α] : Prop where
  isPortable (format : Format) (a : α) : IsPortable format a

export AlwaysPortable (isPortable)

namespace Portable

instance : Portable String where
  IsPortable _ _ := True

instance : Portable Bool where
  IsPortable _ _ := True

instance : Portable Int32 where
  IsPortable _ _ := True

instance : Portable UInt32 where
  IsPortable _ _ := True

instance : Portable Float where
  IsPortable _ x := x.isFinite = true

/-- What TOML does not have. -/
def FitsToml : Value → Prop
  | .null => False
  | .int n => n ≤ 0x7FFFFFFFFFFFFFFF
  | _ => True

instance : Portable Payload where
  IsPortable
    | .json, _ => True
    | .toml, p => p.value.All FitsToml

section Collections

variable {α : Type} [Portable α]

instance : Portable (Option α) where
  IsPortable format o := ∀ a ∈ o, IsPortable format a

instance : Portable (List α) where
  IsPortable format items := ∀ a ∈ items, IsPortable format a

instance : Portable (Table String α) where
  IsPortable format t := ∀ entry ∈ t.toList, IsPortable format entry.2

instance : Portable (PerPath α) where
  IsPortable format m := IsPortable format m.path0 ∧ IsPortable format m.path1

end Collections

/-! ## The records of a rig -/

instance : Portable ParamValue where
  IsPortable
    | format, .number x => IsPortable format x
    | _, _ => True

instance : Portable Block where
  IsPortable format b := IsPortable format b.params

instance : Portable ControllerKind where
  IsPortable _ kind := ∃ code, kind = ControllerKind.ofCode code

instance : Portable Assignment where
  IsPortable format a :=
    IsPortable format a.kind ∧ IsPortable format a.min ∧ IsPortable format a.max

instance : Portable ControllerTable where
  IsPortable format t := IsPortable format t.blocks ∧ IsPortable format t.instrument

instance : Portable InstrumentFamily where
  IsPortable _ _ := True

instance : Portable StringTunings where
  IsPortable _ _ := True

instance : Portable Instrument where
  IsPortable _ _ := True

instance : Portable InstrumentOverride where
  IsPortable _ _ := True

instance : Portable Hint where
  IsPortable format h := IsPortable format h.params

instance : Portable Snapshot where
  IsPortable format s := IsPortable format s.params ∧ IsPortable format s.hint

instance : Portable (Rig Float) where
  IsPortable format r :=
    IsPortable format r.path0 ∧ IsPortable format r.path1 ∧
      IsPortable format r.controllers ∧ IsPortable format r.snapshots ∧
      IsPortable format r.costs

/-! ## Designs and catalogs -/

instance : Portable DesignComponent where
  IsPortable _ _ := True

instance : Portable DesignSnapshot where
  IsPortable format s := IsPortable format s.params

instance : Portable Design where
  IsPortable format d := IsPortable format d.snapshots

instance : Portable (CatalogEntry Float) where
  IsPortable format e := IsPortable format e.monoCost ∧ IsPortable format e.stereoCost

end Portable

/-! ## What every format can carry -/

namespace AlwaysPortable

instance : AlwaysPortable String where
  isPortable _ _ := trivial

instance : AlwaysPortable Bool where
  isPortable _ _ := trivial

instance : AlwaysPortable Int32 where
  isPortable _ _ := trivial

instance : AlwaysPortable UInt32 where
  isPortable _ _ := trivial

instance : AlwaysPortable InstrumentFamily where
  isPortable _ _ := trivial

instance : AlwaysPortable StringTunings where
  isPortable _ _ := trivial

instance : AlwaysPortable Instrument where
  isPortable _ _ := trivial

instance : AlwaysPortable InstrumentOverride where
  isPortable _ _ := trivial

instance : AlwaysPortable DesignComponent where
  isPortable _ _ := trivial

variable {α : Type} [Portable α] [AlwaysPortable α]

instance : AlwaysPortable (Option α) where
  isPortable format _ := fun a _ => isPortable format a

instance : AlwaysPortable (List α) where
  isPortable format _ := fun a _ => isPortable format a

instance : AlwaysPortable (PerPath α) where
  isPortable format _ :=
    ⟨fun entry _ => isPortable format entry.2, fun entry _ => isPortable format entry.2⟩

end AlwaysPortable

/-! ## Nothing to carry -/

theorem isPortable_empty {α : Type} [Portable α] {format : Format} :
    IsPortable format (Table.empty : Table String α) :=
  fun _ hmem => nomatch hmem

theorem isPortable_nil {α : Type} [Portable α] {format : Format} :
    IsPortable format ([] : List α) :=
  fun _ hmem => nomatch hmem

end SignalChain
