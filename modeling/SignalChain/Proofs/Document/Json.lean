import SignalChain.Proofs.Decimal.Range
import SignalChain.Proofs.Document.Value

/-!
# Numbers read from JSON

Every number in a value that was read from JSON is a 64-bit integer or a finite
double: what lies beyond the range of a double is not read as a number.
-/

namespace SignalChain

namespace Document

/-- A number, if it is one, of the size that JSON has. -/
def Value.InRange : Value → Prop
  | .int n => isInteger64 n = true
  | .float x => x.isFinite = true
  | _ => True

theorem lt_of_isInteger64 {n : Int} (h : isInteger64 n = true) :
    -2 ^ 64 < n ∧ n < 2 ^ 64 := by
  simp [isInteger64, isSigned64, isUnsigned64] at h
  omega

namespace Json

open Decimal

/-! ## One number -/

theorem takeWhole_isUnsigned64 {n : Nat} (digits : List Nat)
    (h : isUnsigned64 n = true) : isUnsigned64 (takeWhole n digits).1 = true := by
  induction digits generalizing n with
  | nil => exact h
  | cons d rest ih =>
      simp only [takeWhole]
      split
      · next hfits => exact ih hfits
      · exact h

theorem takeFraction_isUnsigned64 {n : Nat} (digits : List Nat)
    (h : isUnsigned64 n = true) : isUnsigned64 (takeFraction n digits).1 = true := by
  induction digits generalizing n with
  | nil => exact h
  | cons d rest ih =>
      simp only [takeFraction]
      split
      · next hfits => exact ih hfits
      · exact h

/-- Division by a power of ten above one keeps a double finite. -/
theorem isFinite_div_powerOfTen {x : Float} {places : Nat} (hx : x.isFinite = true)
    (hpos : 0 < places) (hle : places ≤ 308) : (x / powerOfTen places).isFinite = true :=
  isFinite_div hx (powerOfTen_reaches places (by omega) hpos)

theorem isFinite_scaleDown {x : Float} {places : Nat} (hx : x.isFinite = true)
    (hpos : 0 < places) : (scaleDown x places).isFinite = true := by
  fun_induction scaleDown x places with
  | case1 x places hle => exact isFinite_div_powerOfTen hx hpos hle
  | case2 x places hle hzero => exact hx
  | case3 x places hle hzero ih =>
      refine ih (isFinite_div_powerOfTen hx (by decide) (by decide)) ?_
      omega

theorem isFinite_of_scaleUp? {x y : Float} {places : Nat} (hx : x.isFinite = true)
    (h : scaleUp? x places = some y) : y.isFinite = true := by
  simp only [scaleUp?] at h
  split at h
  · next hle =>
      split at h
      · cases h
      · next hinf =>
          cases h
          exact isFinite_mul_of_isInf hx (isFinite_powerOfTen hle) (by simpa using hinf)
  · split at h
    · cases h
      exact hx
    · cases h

theorem isFinite_of_scaled? {significand : Nat} {power : Int} {x : Float}
    (hfits : isUnsigned64 significand = true) (h : scaled? significand power = some x) :
    x.isFinite = true := by
  have hsize : significand < 2 ^ 64 := by
    simp [isUnsigned64] at hfits
    omega
  simp only [scaled?] at h
  split at h
  · exact isFinite_of_scaleUp? (isFinite_ofNat hsize) h
  · cases h
    exact isFinite_scaleDown (isFinite_ofNat hsize) (by omega)

open Value

theorem all_inRange_floatValue (n : Numeral) : n.floatValue.All InRange := by
  have hfits := takeFraction_isUnsigned64 (n.fraction.getD [])
    (takeWhole_isUnsigned64 n.whole (by decide : isUnsigned64 0 = true))
  simp only [Numeral.floatValue]
  split
  · exact .scalar trivial rfl
  · next x hx =>
      have hfinite := isFinite_of_scaled? hfits hx
      refine .scalar ?_ rfl
      show Float.isFinite _ = true
      split
      · exact isFinite_neg hfinite
      · exact hfinite

theorem all_inRange_toValue (n : Numeral) : n.toValue.All InRange := by
  simp only [Numeral.toValue]
  split
  · split
    · split
      · next h =>
          simp only [Bool.and_eq_true] at h
          exact .scalar (by simp [InRange, isInteger64, h.2]) rfl
      · exact all_inRange_floatValue n
    · split
      · next h => exact .scalar (by simp [InRange, isInteger64, h]) rfl
      · exact all_inRange_floatValue n
  · exact all_inRange_floatValue n

/-! ## A whole text -/

theorem all_inRange_nested {level : Nat} {v : Value} (h : v.All InRange) :
    (nested level v).All InRange := by
  unfold nested
  split
  · exact h
  · exact .scalar trivial rfl

theorem all_inRange_list {items : List Value} (h : ∀ v ∈ items, v.All InRange) :
    (Value.list items).All InRange :=
  .intro trivial h

theorem all_inRange_objectOf {fields : List (Option String × Value)}
    (h : ∀ field ∈ fields, field.2.All InRange) : (objectOf fields).All InRange := by
  unfold objectOf
  split
  · exact .scalar trivial rfl
  · next named hnamed =>
      refine .intro trivial ?_
      intro v hmem
      obtain ⟨field, hfield, rfl⟩ := List.mem_map.1 hmem
      obtain ⟨source, hsource, heq⟩ := exists_of_mem_mapM hnamed hfield
      obtain ⟨name, -, rfl⟩ := Option.map_eq_some_iff.1 heq
      exact h source hsource

theorem all_inRange_readScalar {cs rest : List Char} {v : Value}
    (h : readScalar cs = some (v, rest)) : v.All InRange := by
  unfold readScalar at h
  split at h
  · cases h
    exact .scalar trivial rfl
  · cases h
    exact .scalar trivial rfl
  · cases h
    exact .scalar trivial rfl
  · obtain ⟨⟨n, _⟩, -, heq⟩ := Option.map_eq_some_iff.1 h
    cases heq
    exact all_inRange_toValue n

/-- What the readers of values, of list elements and of fields answer with. -/
structure ReadsInRange (fuel : Nat) : Prop where
  value : ∀ {level cs v rest}, readValue fuel level cs = some (v, rest) → v.All InRange
  items : ∀ {level cs items rest}, readItems fuel level cs = some (items, rest) →
    ∀ v ∈ items, v.All InRange
  fields : ∀ {level cs fields rest}, readFields fuel level cs = some (fields, rest) →
    ∀ field ∈ fields, field.2.All InRange

theorem readsInRange_zero : ReadsInRange 0 := by
  refine ⟨?_, ?_, ?_⟩
  · intro level cs v rest h
    simp [readValue] at h
  · intro level cs items rest h
    simp [readItems] at h
  · intro level cs fields rest h
    simp [readFields] at h

theorem all_inRange_readValue_succ {fuel level : Nat} {cs rest : List Char} {v : Value}
    (ih : ReadsInRange fuel) (h : readValue (fuel + 1) level cs = some (v, rest)) :
    v.All InRange := by
  simp only [readValue] at h
  split at h
  · simp only [Option.bind_eq_bind, Option.bind_eq_some_iff, Option.some.injEq,
      Prod.mk.injEq] at h
    obtain ⟨⟨text, _⟩, -, rfl, -⟩ := h
    cases text <;> exact .scalar trivial rfl
  · split at h
    · cases h
      exact all_inRange_nested (all_inRange_list (by simp))
    · simp only [Option.bind_eq_bind, Option.bind_eq_some_iff, Option.some.injEq,
        Prod.mk.injEq] at h
      obtain ⟨⟨items, _⟩, hitems, rfl, -⟩ := h
      exact all_inRange_nested (all_inRange_list (ih.items hitems))
  · split at h
    · cases h
      exact all_inRange_nested (.scalar trivial rfl)
    · simp only [Option.bind_eq_bind, Option.bind_eq_some_iff, Option.some.injEq,
        Prod.mk.injEq] at h
      obtain ⟨⟨fields, _⟩, hfields, rfl, -⟩ := h
      exact all_inRange_nested (all_inRange_objectOf (ih.fields hfields))
  · exact all_inRange_readScalar h

theorem all_inRange_readItems_succ {fuel level : Nat} {cs rest : List Char}
    {items : List Value} (ih : ReadsInRange fuel)
    (h : readItems (fuel + 1) level cs = some (items, rest)) :
    ∀ v ∈ items, v.All InRange := by
  simp only [readItems, Option.bind_eq_bind, Option.bind_eq_some_iff] at h
  obtain ⟨⟨item, tail⟩, hitem, h⟩ := h
  have hhead := ih.value hitem
  split at h
  · obtain ⟨⟨items, _⟩, hitems, heq⟩ := Option.bind_eq_some_iff.1 h
    cases heq
    exact List.forall_mem_cons.2 ⟨hhead, ih.items hitems⟩
  · cases h
    simpa using hhead
  · cases h

theorem all_inRange_readFields_succ {fuel level : Nat} {cs rest : List Char}
    {fields : List (Option String × Value)} (ih : ReadsInRange fuel)
    (h : readFields (fuel + 1) level cs = some (fields, rest)) :
    ∀ field ∈ fields, field.2.All InRange := by
  simp only [readFields] at h
  split at h
  · simp only [Option.bind_eq_bind, Option.bind_eq_some_iff] at h
    obtain ⟨⟨name, afterName⟩, -, h⟩ := h
    split at h
    · simp only [Option.bind_eq_some_iff] at h
      obtain ⟨⟨v, afterValue⟩, hvalue, h⟩ := h
      have hhead := ih.value hvalue
      split at h
      · obtain ⟨⟨fields, _⟩, hfields, heq⟩ := Option.bind_eq_some_iff.1 h
        cases heq
        exact List.forall_mem_cons.2 ⟨hhead, ih.fields hfields⟩
      · cases h
        simpa using hhead
      · cases h
    · cases h
  · cases h

theorem readsInRange (fuel : Nat) : ReadsInRange fuel := by
  induction fuel with
  | zero => exact readsInRange_zero
  | succ fuel ih =>
      exact ⟨all_inRange_readValue_succ ih, all_inRange_readItems_succ ih,
        all_inRange_readFields_succ ih⟩

theorem all_inRange_read? {text : String} {v : Value} (h : read? text = some v) :
    v.All InRange := by
  simp only [read?, Option.bind_eq_bind, Option.bind_eq_some_iff] at h
  obtain ⟨⟨value, rest⟩, hread, h⟩ := h
  have hvalue := (readsInRange _).value hread
  split at h
  · cases h
    exact hvalue
  · cases h

end Json

end Document

end SignalChain
