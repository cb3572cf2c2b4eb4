import Mathlib.Data.List.Nodup
import Mathlib.Logic.ExistsUnique
import SignalChain.Chain.InstrumentModel

/-!
# Places and names of instrument models

Every id but 0 has one slot, and every slot that ids of 32 bits can reach is the
place of one id.  The step from one to the other is arithmetic without a carry:
no number on the way leaves the 32 bits.  The banks of a family have names of
their own, so two models are only called alike where the names have run out and
the variant is all that is left to tell.
-/

namespace SignalChain

namespace InstrumentModel

/-! ## Slots as numbers -/

namespace Slot

/-- Variants are counted from 1 to 5. -/
def HasVariant (slot : Slot) : Prop :=
  1 ≤ slot.variant.toNat ∧ slot.variant.toNat ≤ 5

instance (slot : Slot) : Decidable slot.HasVariant :=
  inferInstanceAs (Decidable (_ ∧ _))

/-- The id that a slot stands for: the banks before it are full, and its own counts down. -/
def number (slot : Slot) : Nat :=
  5 * slot.bank.toNat + (5 - slot.variant.toNat) + 1

theorem ext_toNat {slot other : Slot} (hbank : slot.bank.toNat = other.bank.toNat)
    (hvariant : slot.variant.toNat = other.variant.toNat) : slot = other := by
  cases slot
  cases other
  rw [mk.injEq]
  exact ⟨UInt32.toNat_inj.1 hbank, UInt32.toNat_inj.1 hvariant⟩

end Slot

section Places

variable {id : UInt32}

theorem toNat_pos_of_ne (h : id ≠ 0) : 0 < id.toNat := by
  apply Nat.pos_of_ne_zero
  intro hzero
  exact h (UInt32.toNat_inj.1 hzero)

theorem toNat_offset (h : id ≠ 0) : (id - 1).toNat = id.toNat - 1 :=
  UInt32.toNat_sub_of_le id 1 (UInt32.le_iff_toNat_le.2 (toNat_pos_of_ne h))

theorem toNat_bank (h : id ≠ 0) : ((id - 1) / bankSize).toNat = (id.toNat - 1) / 5 := by
  rw [UInt32.toNat_div, toNat_offset h]
  rfl

theorem toNat_remainder (h : id ≠ 0) : ((id - 1) % bankSize).toNat = (id.toNat - 1) % 5 := by
  rw [UInt32.toNat_mod, toNat_offset h]
  rfl

theorem remainder_le (h : id ≠ 0) : (id - 1) % bankSize ≤ bankSize := by
  rw [UInt32.le_iff_toNat_le, toNat_remainder h]
  exact Nat.le_of_lt (Nat.mod_lt _ (by decide))

theorem toNat_variant (h : id ≠ 0) :
    (bankSize - (id - 1) % bankSize).toNat = 5 - (id.toNat - 1) % 5 := by
  rw [UInt32.toNat_sub_of_le _ _ (remainder_le h), toNat_remainder h]
  rfl

theorem slot?_of_ne (h : id ≠ 0) :
    slot? id = some ⟨(id - 1) / bankSize, bankSize - (id - 1) % bankSize⟩ :=
  if_neg h

/-- A slot is the place of the one id that it stands for. -/
theorem slot?_eq_some_iff {slot : Slot} :
    slot? id = some slot ↔ slot.HasVariant ∧ slot.number = id.toNat := by
  unfold Slot.HasVariant Slot.number
  by_cases h : id = 0
  · subst h
    have hzero : (0 : UInt32).toNat = 0 := rfl
    have hnone : slot? 0 = none := rfl
    rw [hnone, hzero]
    simp
  · have hpos := toNat_pos_of_ne h
    have hbank := toNat_bank h
    have hvariant := toNat_variant h
    rw [slot?_of_ne h, Option.some.injEq]
    constructor
    · intro heq
      subst heq
      dsimp only
      omega
    · intro hslot
      apply Slot.ext_toNat
      · dsimp only
        omega
      · dsimp only
        omega

end Places

/--
No step from an id to its slot, or from the slot back to the id, leaves the 32
bits: nothing is taken from a smaller number, and no product or sum is too large.
-/
structure StepsFit (id : UInt32) (slot : Slot) : Prop where
  offset : BitVec.usubOverflow id.toBitVec 1 = false
  variant : BitVec.usubOverflow bankSize.toBitVec ((id - 1) % bankSize).toBitVec = false
  banks : BitVec.umulOverflow bankSize.toBitVec slot.bank.toBitVec = false
  place : BitVec.usubOverflow bankSize.toBitVec slot.variant.toBitVec = false
  sum : BitVec.uaddOverflow (bankSize * slot.bank).toBitVec
    (bankSize - slot.variant).toBitVec = false
  next : BitVec.uaddOverflow (bankSize * slot.bank + (bankSize - slot.variant)).toBitVec 1 = false
  id_eq : bankSize * slot.bank + (bankSize - slot.variant) + 1 = id

theorem stepsFit_of_slot? {id : UInt32} {slot : Slot} (h : slot? id = some slot) :
    StepsFit id slot := by
  obtain ⟨⟨hpos, hle⟩, hnumber⟩ := slot?_eq_some_iff.1 h
  unfold Slot.number at hnumber
  have hlt : id.toNat < 4294967296 := id.toNat_lt
  have hsize : bankSize.toNat = 5 := rfl
  have hone : (1 : UInt32).toNat = 1 := rfl
  have hne : id ≠ 0 := by
    intro hzero
    subst hzero
    exact absurd hnumber (Nat.succ_ne_zero _)
  have hbanks : (bankSize * slot.bank).toNat = 5 * slot.bank.toNat := by
    rw [UInt32.toNat_mul, hsize]
    omega
  have hplace : (bankSize - slot.variant).toNat = 5 - slot.variant.toNat :=
    UInt32.toNat_sub_of_le _ _ (UInt32.le_iff_toNat_le.2 hle)
  have hsum : (bankSize * slot.bank + (bankSize - slot.variant)).toNat =
      5 * slot.bank.toNat + (5 - slot.variant.toNat) := by
    rw [UInt32.toNat_add, hbanks, hplace]
    omega
  constructor
  · exact decide_eq_false (Nat.not_lt.2 (toNat_pos_of_ne hne))
  · exact decide_eq_false (Nat.not_lt.2 (UInt32.le_iff_toNat_le.1 (remainder_le hne)))
  · apply decide_eq_false
    show ¬ 5 * slot.bank.toNat ≥ 4294967296
    omega
  · exact decide_eq_false (Nat.not_lt.2 hle)
  · apply decide_eq_false
    show ¬ (bankSize * slot.bank).toNat + (bankSize - slot.variant).toNat ≥ 4294967296
    omega
  · apply decide_eq_false
    show ¬ (bankSize * slot.bank + (bankSize - slot.variant)).toNat + 1 ≥ 4294967296
    omega
  · apply UInt32.toNat_inj.1
    rw [UInt32.toNat_add, hsum, hone]
    omega

theorem exists_slot? {id : UInt32} (h : id ≠ 0) : ∃ slot, slot? id = some slot :=
  ⟨_, slot?_of_ne h⟩

theorem existsUnique_id {slot : Slot} (hvariant : slot.HasVariant)
    (hrange : slot.number < UInt32.size) : ∃! id, slot? id = some slot := by
  have hid : (UInt32.ofNat slot.number).toNat = slot.number :=
    UInt32.toNat_ofNat_of_lt' hrange
  refine ⟨UInt32.ofNat slot.number, slot?_eq_some_iff.2 ⟨hvariant, hid.symm⟩, ?_⟩
  intro other hother
  apply UInt32.toNat_inj.1
  rw [hid]
  exact (slot?_eq_some_iff.1 hother).2.symm

/-! ## Names -/

/-- No two banks of a family have one name, and none is called as an instrument without a bank. -/
theorem bankNames_nodup (family : InstrumentFamily) :
    (genericName :: bankNames family).Nodup := by
  cases family <;> decide

theorem length_bankNames (family : InstrumentFamily) : (bankNames family).length = 12 := by
  cases family <;> rfl

theorem bankName_eq_generic_iff (family : InstrumentFamily) (bank : UInt32) :
    bankName family bank = genericName ↔ 12 ≤ bank.toNat := by
  rw [← length_bankNames family, ← List.getElem?_eq_none_iff, bankName]
  cases hname : (bankNames family)[bank.toNat]? with
  | none => simp
  | some name =>
      -- A name of the table is not the generic one.
      have hmem : name ∈ bankNames family := List.mem_of_getElem? hname
      have hne : name ≠ genericName := by
        intro heq
        subst heq
        exact (List.nodup_cons.1 (bankNames_nodup family)).1 hmem
      simp [hne]

theorem bankName_eq_iff (family : InstrumentFamily) (bank other : UInt32) :
    bankName family bank = bankName family other ↔
      bank = other ∨ 12 ≤ bank.toNat ∧ 12 ≤ other.toNat := by
  have hgeneric := bankName_eq_generic_iff family bank
  have hgeneric' := bankName_eq_generic_iff family other
  by_cases hbank : 12 ≤ bank.toNat
  · rw [hgeneric.2 hbank, eq_comm, hgeneric']
    constructor
    · intro hother
      exact Or.inr ⟨hbank, hother⟩
    · intro h
      rcases h with heq | hboth
      · exact heq ▸ hbank
      · exact hboth.2
  · constructor
    · intro heq
      left
      have hother : ¬ 12 ≤ other.toNat := by
        rw [← hgeneric', ← heq, hgeneric]
        exact hbank
      have hlt : bank.toNat < (bankNames family).length := by
        rw [length_bankNames]
        omega
      have hlt' : other.toNat < (bankNames family).length := by
        rw [length_bankNames]
        omega
      rw [bankName, bankName, List.getElem?_eq_getElem hlt, List.getElem?_eq_getElem hlt',
        Option.getD_some, Option.getD_some] at heq
      have hnodup := (List.nodup_cons.1 (bankNames_nodup family)).2
      exact UInt32.toNat_inj.1 ((hnodup.getElem_inj_iff).1 heq)
    · intro h
      rcases h with heq | hboth
      · rw [heq]
      · exact absurd hboth.1 hbank

theorem toList_nameOf {family : InstrumentFamily} {id : UInt32} {slot : Slot}
    (h : slot? id = some slot) :
    (nameOf family id).toList =
      (bankName family slot.bank).toList ++ [' ', Nat.digitChar slot.variant.toNat] := by
  have hvariant : slot.variant.toNat < 10 := by
    have hle := (slot?_eq_some_iff.1 h).1.2
    omega
  simp [nameOf, h, Decimal.natText, Nat.toDigits_of_lt_base hvariant]

theorem nameOf_eq_iff_of_slot? {family : InstrumentFamily} {id other : UInt32}
    {slot slot' : Slot} (h : slot? id = some slot) (h' : slot? other = some slot') :
    nameOf family id = nameOf family other ↔
      bankName family slot.bank = bankName family slot'.bank ∧ slot.variant = slot'.variant := by
  rw [← String.toList_inj, toList_nameOf h, toList_nameOf h']
  constructor
  · intro heq
    -- The digit is the last character of both names, whatever digits the banks end in.
    obtain ⟨hbank, hdigit⟩ := List.append_inj' heq rfl
    have hvariant := (slot?_eq_some_iff.1 h).1.2
    have hvariant' := (slot?_eq_some_iff.1 h').1.2
    have hcode := congrArg Char.toNat (List.cons.inj (List.cons.inj hdigit).2).1
    rw [Nat.toNat_digitChar_of_lt_ten (by omega), Nat.toNat_digitChar_of_lt_ten (by omega)] at hcode
    exact ⟨String.toList_inj.1 hbank, UInt32.toNat_inj.1 (by omega)⟩
  · intro h
    rw [h.1, h.2]

theorem nameOf_ne_nameOf_zero (family : InstrumentFamily) {id : UInt32} (h : id ≠ 0) :
    nameOf family id ≠ nameOf family 0 := by
  obtain ⟨slot, hslot⟩ := exists_slot? h
  intro heq
  have hblank : ' ' ∈ (nameOf family id).toList := by
    rw [toList_nameOf hslot]
    simp
  rw [heq] at hblank
  have hnone : ' ' ∉ genericName.toList := by decide
  exact hnone hblank

theorem nameOf_eq_iff (family : InstrumentFamily) {id other : UInt32} (hne : id ≠ other) :
    nameOf family id = nameOf family other ↔ 60 < id ∧ 60 < other ∧ id % 5 = other % 5 := by
  have hnat : id.toNat ≠ other.toNat := fun heq => hne (UInt32.toNat_inj.1 heq)
  have hsixty : (60 : UInt32).toNat = 60 := rfl
  have hfive : (5 : UInt32).toNat = 5 := rfl
  rw [UInt32.lt_iff_toNat_lt, UInt32.lt_iff_toNat_lt, ← UInt32.toNat_inj, UInt32.toNat_mod,
    UInt32.toNat_mod, hsixty, hfive]
  by_cases hid : id = 0
  · subst hid
    have hzero : (0 : UInt32).toNat = 0 := rfl
    have hname := nameOf_ne_nameOf_zero family (Ne.symm hne)
    constructor
    · intro heq
      exact absurd heq.symm hname
    · intro h
      omega
  by_cases hother : other = 0
  · subst hother
    have hzero : (0 : UInt32).toNat = 0 := rfl
    have hname := nameOf_ne_nameOf_zero family hid
    constructor
    · intro heq
      exact absurd heq hname
    · intro h
      omega
  obtain ⟨slot, hslot⟩ := exists_slot? hid
  obtain ⟨slot', hslot'⟩ := exists_slot? hother
  obtain ⟨⟨hpos, hle⟩, hnumber⟩ := slot?_eq_some_iff.1 hslot
  obtain ⟨⟨hpos', hle'⟩, hnumber'⟩ := slot?_eq_some_iff.1 hslot'
  unfold Slot.number at hnumber hnumber'
  rw [nameOf_eq_iff_of_slot? hslot hslot', bankName_eq_iff, ← UInt32.toNat_inj, ← UInt32.toNat_inj]
  omega

/-- The digit of a bank and the digit of a variant are kept apart. -/
example : nameOf .jtv 5 = "Custom 1 1" ∧ nameOf .jtv 60 = "Custom 2 1" := by
  decide

/-! ## Ids, slots and names -/

/--
Every id but 0 has a slot that counts it, and every slot that counts up to the
last id is the slot of one id.  Two ids have one name exactly where both lie
behind the banks and have the same variant, and the name of id 0 is its own.
-/
theorem models_placed_and_named :
    (∀ id : UInt32, id ≠ 0 → ∃ slot, slot? id = some slot ∧ slot.HasVariant ∧
      slot.number = id.toNat ∧ StepsFit id slot) ∧
    (∀ slot : Slot, slot.HasVariant → slot.number < UInt32.size → ∃! id, slot? id = some slot) ∧
    (∀ (family : InstrumentFamily) (id other : UInt32), id ≠ other →
      (nameOf family id = nameOf family other ↔ 60 < id ∧ 60 < other ∧ id % 5 = other % 5)) ∧
    ∀ (family : InstrumentFamily) (id : UInt32), id ≠ 0 →
      nameOf family id ≠ nameOf family 0 := by
  refine ⟨?_, ?_, ?_, ?_⟩
  · intro id h
    obtain ⟨slot, hslot⟩ := exists_slot? h
    obtain ⟨hvariant, hnumber⟩ := slot?_eq_some_iff.1 hslot
    exact ⟨slot, hslot, hvariant, hnumber, stepsFit_of_slot? hslot⟩
  · intro slot hvariant hrange
    exact existsUnique_id hvariant hrange
  · intro family id other hne
    exact nameOf_eq_iff family hne
  · intro family id h
    exact nameOf_ne_nameOf_zero family h

/-- The last id of all, its slot, and a model right behind the banks with the name of a far one. -/
theorem models_placed_and_named_lastId :
    let last : UInt32 := 4294967295
    let lastSlot : Slot := ⟨858993458, 1⟩
    (last ≠ 0 ∧ ∃ slot, slot? last = some slot ∧ slot.HasVariant ∧
      slot.number = last.toNat ∧ StepsFit last slot) ∧
    (lastSlot.HasVariant ∧ lastSlot.number < UInt32.size ∧ ∃! id, slot? id = some lastSlot) ∧
    ((61 : UInt32) ≠ 4294967291 ∧ nameOf .jtv 61 = nameOf .jtv 4294967291) ∧
    nameOf .shuriken last ≠ nameOf .shuriken 0 := by
  intro last lastSlot
  obtain ⟨hplaced, hcounted, hnamed, hzero⟩ := models_placed_and_named
  have hlast : last ≠ 0 := by decide
  have hvariant : lastSlot.HasVariant := by decide
  have hrange : lastSlot.number < UInt32.size := by decide
  have hne : (61 : UInt32) ≠ 4294967291 := by decide
  exact ⟨⟨hlast, hplaced last hlast⟩,
    ⟨hvariant, hrange, hcounted lastSlot hvariant hrange⟩,
    ⟨hne, (hnamed .jtv 61 4294967291 hne).2 (by decide)⟩, hzero .shuriken last hlast⟩

end InstrumentModel

end SignalChain
