import SignalChain.Proofs.Record.Lawful

/-!
# Records come back from their texts

A record is written as a value, and the value as a text.  What the text formats
do with values is taken for granted here, one value at a time: the value that is
written is read as the same data.  Then the record is read back as it was, with
absent and empty tables kept apart and every number, flag and text of its kind.
-/

namespace SignalChain

open Document Record

/-- Writing a record and reading the text, in one format. -/
def ComesBack (format : Format) (α : Type) [Record α] [Portable α] : Prop :=
  ∀ a : α, IsPortable format a → format.Keeps (toValue a) →
    ∃ text, write? format a = some text ∧ read? format text = some a

/-- Reading a document, writing the record and reading again. -/
def StaysAccepted (α : Type) [Record α] [Portable α] : Prop :=
  ∀ (text : String) (a : α), read? .json text = some a →
    IsPortable .json a ∧
      (Format.json.Keeps (toValue a) →
        ∃ again, write? .json a = some again ∧ read? .json again = some a)

/-- A record type of JSON documents. -/
structure RoundTrips (α : Type) [Record α] [Portable α] : Prop where
  json : ComesBack .json α
  accepted : StaysAccepted α

/-- A record type of JSON and of TOML documents. -/
structure RoundTripsAsTable (α : Type) [Record α] [Portable α] : Prop
    extends RoundTrips α where
  toml : ComesBack .toml α

section Lawful

variable {α : Type} [Record α] [Portable α] [LawfulRecord α]

theorem comesBack {format : Format}
    (htable : format = .toml → ∀ a : α, ∃ fields, toValue a = .object fields) :
    ComesBack format α := by
  intro a h hkeeps
  have hexpresses := expresses_toValue h
  obtain ⟨text, hwrite⟩ := Format.write?_isSome hexpresses (fun hformat => htable hformat a)
  obtain ⟨w, hread, hsame⟩ := hkeeps hexpresses text hwrite
  refine ⟨text, hwrite, ?_⟩
  rw [read?, hread, Option.bind_some, ofValue?_of_same h hsame]

theorem isPortable_of_read? {text : String} {a : α} (h : read? .json text = some a) :
    IsPortable .json a := by
  obtain ⟨w, hread, hvalue⟩ := Option.bind_eq_some_iff.1 h
  exact isPortable_of_ofValue? (Json.all_inRange_read? hread) hvalue

theorem roundTrips : RoundTrips α where
  json := comesBack nofun
  accepted := by
    intro text a h
    have hportable := isPortable_of_read? h
    exact ⟨hportable, comesBack nofun a hportable⟩

theorem roundTripsAsTable (htable : ∀ a : α, ∃ fields, toValue a = .object fields) :
    RoundTripsAsTable α where
  toRoundTrips := roundTrips
  toml := comesBack (fun _ => htable)

end Lawful

theorem records_round_trip :
    RoundTripsAsTable (Rig Float) ∧ RoundTripsAsTable Design ∧ RoundTripsAsTable Snapshot ∧
      RoundTripsAsTable Block ∧ RoundTripsAsTable ControllerTable ∧
      RoundTripsAsTable Instrument ∧ RoundTrips (List (CatalogEntry Float)) :=
  ⟨roundTripsAsTable (fun _ => ⟨_, rfl⟩), roundTripsAsTable (fun _ => ⟨_, rfl⟩),
    roundTripsAsTable (fun _ => ⟨_, rfl⟩), roundTripsAsTable (fun _ => ⟨_, rfl⟩),
    roundTripsAsTable (fun _ => ⟨_, rfl⟩), roundTripsAsTable (fun _ => ⟨_, rfl⟩),
    roundTrips⟩

/-- A snapshot of which TOML puts the guitar model before the parameters. -/
def hintedVerse : Snapshot :=
  (Snapshot.ofName "A").withHint
    ⟨[], Table.ofList [("x", ⟨.float 0.5, by decide +kernel⟩)], some "J", none⟩

theorem records_round_trip_hintedVerse :
    (∃ text, write? .json hintedVerse = some text ∧ read? .json text = some hintedVerse) ∧
      (∃ text, write? .toml hintedVerse = some text ∧ read? .toml text = some hintedVerse) := by
  obtain ⟨-, -, hsnapshot, -⟩ := records_round_trip
  have hportable (format : Format) : IsPortable format hintedVerse := by
    have hparams : IsPortable format hintedVerse.params := by
      rintro _ ⟨⟩
    have hhint : IsPortable format hintedVerse.hint := by
      rintro _ ⟨⟩ entry hentry
      obtain rfl : entry = ("x", ⟨.float 0.5, by decide +kernel⟩) :=
        List.mem_singleton.1 hentry
      cases format with
      | json => trivial
      | toml => exact .scalar trivial rfl
    exact ⟨hparams, hhint⟩
  have hkeeps (format : Format) : format.Keeps (toValue hintedVerse) := by
    refine Format.keeps_of_restores ?_
    cases format <;> decide +kernel
  exact ⟨hsnapshot.json hintedVerse (hportable _) (hkeeps _),
    hsnapshot.toml hintedVerse (hportable _) (hkeeps _)⟩

end SignalChain
