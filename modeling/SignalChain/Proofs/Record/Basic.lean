import SignalChain.Proofs.Document.Payload
import SignalChain.Proofs.Record.Portable

/-!
# Laws of records

A record that a format can carry is written as a value of the data model of the
format, and it is read back from every value with the same data.  What was read
from JSON can be carried by JSON.
-/

namespace SignalChain

open Document Record

class LawfulRecord (α : Type) [Record α] [Portable α] : Prop where
  expresses_toValue {format : Format} {a : α} :
    IsPortable format a → format.Expresses (toValue a)
  ofValue?_of_same {format : Format} {a : α} {w : Value} :
    IsPortable format a → Value.Same (toValue a) w → ofValue? format w = some a
  isPortable_of_ofValue? {w : Value} {a : α} :
    w.All Value.InRange → ofValue? .json w = some a → IsPortable .json a

export LawfulRecord (expresses_toValue ofValue?_of_same isPortable_of_ofValue?)

namespace Record

/-! ## Values without fields -/

instance : LawfulRecord String where
  expresses_toValue _ := .scalar trivial rfl
  ofValue?_of_same _ hsame := by
    cases hsame
    rfl
  isPortable_of_ofValue? _ _ := trivial

instance : LawfulRecord Bool where
  expresses_toValue _ := .scalar trivial rfl
  ofValue?_of_same _ hsame := by
    cases hsame
    rfl
  isPortable_of_ofValue? _ _ := trivial

instance : LawfulRecord Float where
  expresses_toValue h := .scalar h rfl
  ofValue?_of_same _ hsame := by
    cases hsame
    rfl
  isPortable_of_ofValue? := by
    intro w x hall h
    cases w <;> simp only [ofValue?] at h <;> cases h
    · next n =>
        obtain ⟨hlow, hhigh⟩ := lt_of_isInteger64 hall.self
        exact Decimal.isFinite_ofInt hlow hhigh
    · exact hall.self

theorem integerIn?_of_mem {low high n : Int} (hlow : low ≤ n) (hhigh : n ≤ high) :
    integerIn? low high (.int n) = some n := by
  simp [integerIn?, hlow, hhigh]

theorem hasInteger_of_mem {format : Format} {n : Int} (hlow : -0x80000000 ≤ n)
    (hhigh : n ≤ 0xFFFFFFFF) : format.hasInteger n = true := by
  cases format <;>
    simp [Format.hasInteger, isInteger64, isSigned64, isUnsigned64] <;> omega

instance : LawfulRecord Int32 where
  expresses_toValue {format n} _ := by
    have hlow := n.le_toInt
    have hhigh := n.toInt_lt
    exact .scalar (hasInteger_of_mem (by omega) (by omega)) rfl
  ofValue?_of_same {format n w} _ hsame := by
    have hlow := n.le_toInt
    have hhigh := n.toInt_lt
    cases hsame
    show (integerIn? _ _ (.int n.toInt)).map Int32.ofInt = some n
    rw [integerIn?_of_mem (by omega) (by omega), Option.map_some, Int32.ofInt_toInt]
  isPortable_of_ofValue? _ _ := trivial

instance : LawfulRecord UInt32 where
  expresses_toValue {format n} _ := by
    have hhigh := n.toNat_lt
    exact .scalar (hasInteger_of_mem (by omega) (by omega)) rfl
  ofValue?_of_same {format n w} _ hsame := by
    have hhigh := n.toNat_lt
    cases hsame
    show (integerIn? _ _ (.int n.toNat)).map (fun n => UInt32.ofNat n.toNat) = some n
    rw [integerIn?_of_mem (by omega) (by omega)]
    simp
  isPortable_of_ofValue? _ _ := trivial

/-- TOML carries what JSON carries, apart from nulls and unsigned integers. -/
theorem datum_toml_of_fitsToml {v : Value} (h : Format.json.Datum v)
    (hfits : Portable.FitsToml v) : Format.toml.Datum v := by
  cases v with
  | null => cases hfits
  | int n =>
      simp only [Format.Datum, Format.hasInteger, Portable.FitsToml] at h hfits ⊢
      simp [isInteger64, isSigned64] at h ⊢
      omega
  | _ => exact h

instance : LawfulRecord Payload where
  expresses_toValue {format p} h := by
    have hjson := Value.expresses_of_isCanonical p.canonical
    cases format with
    | json => exact hjson
    | toml =>
        have hfits : p.value.All Portable.FitsToml := h
        exact hjson.and_imp hfits (fun _ => datum_toml_of_fitsToml)
  ofValue?_of_same _ hsame := Payload.ofValue?_of_same hsame
  isPortable_of_ofValue? _ _ := trivial

/-! ## Lists and tables -/

section Collections

variable {α : Type} [Record α] [Portable α] [LawfulRecord α]

instance : LawfulRecord (List α) where
  expresses_toValue {format items} h := by
    refine .intro trivial ?_
    intro v hmem
    obtain ⟨a, ha, rfl⟩ := List.mem_map.1 hmem
    exact expresses_toValue (h a ha)
  ofValue?_of_same {format items w} h hsame := by
    obtain ⟨others, rfl, heach⟩ := hsame.of_list
    exact Value.mapM_of_same (fun a ha w hw => ofValue?_of_same (h a ha) hw) heach
  isPortable_of_ofValue? {w items} hall h := by
    cases w with
    | list others =>
        intro a ha
        obtain ⟨v, hv, hread⟩ := exists_of_mem_mapM h ha
        exact isPortable_of_ofValue? (hall.of_mem hv) hread
    | _ => cases h

instance : LawfulRecord (Table String α) where
  expresses_toValue {format t} h := by
    refine .intro ?_ ?_
    · show ((t.toList.map (fun entry => (entry.1, toValue entry.2))).map
        (fun field => field.1)).Nodup
      simpa [Function.comp_def] using t.keys_nodup
    · intro v hmem
      obtain ⟨field, hfield, rfl⟩ := List.mem_map.1 hmem
      obtain ⟨entry, hentry, rfl⟩ := List.mem_map.1 hfield
      exact expresses_toValue (h entry hentry)
  ofValue?_of_same {format t w} h hsame := by
    obtain ⟨others, given, rfl, heach, horder⟩ := hsame.of_object
    obtain ⟨read, hread, hperm⟩ := Value.mapM_readField_of_same
      (fun entry hentry w hw => ofValue?_of_same (h entry hentry) hw) heach horder
    show (given.mapM (Value.readField (ofValue? format))).map Table.ofList = some t
    rw [hread, Option.map_some, Table.ofList_of_perm hperm]
  isPortable_of_ofValue? {w t} hall h := by
    cases w with
    | object fields =>
        obtain ⟨read, hread, rfl⟩ := Option.map_eq_some_iff.1 h
        intro entry hentry
        obtain ⟨field, hfield, hvalue⟩ :=
          exists_of_mem_mapM hread (Table.mem_of_mem_toList_ofList hentry)
        obtain ⟨a, ha, rfl⟩ := Option.map_eq_some_iff.1 hvalue
        exact isPortable_of_ofValue? (hall.of_mem (List.mem_map_of_mem hfield)) ha
    | _ => cases h

end Collections

end Record

end SignalChain
