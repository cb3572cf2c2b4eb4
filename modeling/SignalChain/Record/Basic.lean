import SignalChain.Document.Format

/-!
# Records in documents

How typed records are written as document values and read back.  A record may
be given as an object, whose unknown fields do not count, or as a list of its
fields in their order.  The formats differ in one point: JSON refuses a list
with too many elements, TOML does not look at the surplus.
-/

namespace SignalChain

open Document

class Written (α : Type) where
  toValue : α -> Value

export Written (toValue)

class Record (α : Type) extends Written α where
  ofValue? : Format -> Value -> Option α

export Record (ofValue?)

namespace Record

/-! ## Reading fields -/

/-- The elements of a list of which a record with `count` parts takes notice. -/
def partsOf? {α : Type} (format : Format) (count : Nat) (items : List α) :
    Option (List α) :=
  match format with
  | .json => if items.length <= count then some items else none
  | .toml => some (items.take count)

/-- What is given for the fields of a record, each of them at most once. -/
def fieldsOf? (format : Format) (names : List String) :
    Value -> Option (List (String × Value))
  | .object given =>
      let known := given.filter (fun field => names.contains field.1)
      if (known.map (·.1)).Nodup then some known else none
  | .list items => (partsOf? format names.length items).map names.zip
  | _ => none

section Fields

variable {α : Type} [Record α]

def required (format : Format) (given : List (String × Value))
    (name : String) : Option α :=
  (given.lookup name).bind (ofValue? format)

def defaulted (format : Format) (given : List (String × Value))
    (name : String) (value : α) : Option α :=
  match given.lookup name with
  | none => some value
  | some v => ofValue? format v

/-- Read a field that may be missing or null. -/
def optional (format : Format) (given : List (String × Value))
    (name : String) : Option (Option α) :=
  match given.lookup name with
  | none => some none
  | some .null => some none
  | some v => (ofValue? format v).map some

end Fields

/-! ## Writing fields -/

section Fields

variable {α : Type} [Written α]

def field (name : String) (a : α) : List (String × Value) :=
  [(name, toValue a)]

def fieldIfSome (name : String) (a : Option α) : List (String × Value) :=
  match a with
  | none => []
  | some a => field name a

def fieldUnless (skip : Bool) (name : String) (a : α) : List (String × Value) :=
  if skip then [] else field name a

end Fields

/-! ## Values without fields -/

instance : Record String where
  toValue := .text
  ofValue? _ v :=
    match v with
    | .text s => some s
    | _ => none

instance : Record Bool where
  toValue := .bool
  ofValue? _ v :=
    match v with
    | .bool b => some b
    | _ => none

/-- A double may be given as an integer. -/
instance : Record Float where
  toValue := .float
  ofValue? _ v :=
    match v with
    | .float x => some x
    | .int n => some (Float.ofInt n)
    | _ => none

def integerIn? (low high : Int) : Value -> Option Int
  | .int n => if low <= n && n <= high then some n else none
  | _ => none

instance : Record Int32 where
  toValue n := .int n.toInt
  ofValue? _ v := (integerIn? (-0x80000000) 0x7FFFFFFF v).map Int32.ofInt

instance : Record UInt32 where
  toValue n := .int n.toNat
  ofValue? _ v := (integerIn? 0 0xFFFFFFFF v).map (fun n => UInt32.ofNat n.toNat)

/-- Counts and indices have 64 bits. -/
instance : Record Nat where
  toValue n := .int n
  ofValue? _ v := (integerIn? 0 0xFFFFFFFFFFFFFFFF v).map Int.toNat

instance : Record Payload where
  toValue p := p.value
  ofValue? _ v := Payload.ofValue? v

/-! ## Lists and tables -/

instance {α : Type} [Written α] : Written (List α) where
  toValue items := .list (items.map toValue)

instance {α : Type} [Record α] : Record (List α) where
  ofValue? format v :=
    match v with
    | .list items => items.mapM (ofValue? format)
    | _ => none

instance {α : Type} [Written α] : Written (Table String α) where
  toValue t := .object (t.toList.map (fun entry => (entry.1, toValue entry.2)))

/-- Of a repeated name the last value stays, but every value must fit. -/
instance {α : Type} [Record α] : Record (Table String α) where
  ofValue? format v :=
    match v with
    | .object fields =>
        (fields.mapM (fun field =>
          (ofValue? format field.2).map (fun a => (field.1, a)))).map Table.ofList
    | _ => none

/-! ## Documents -/

def read? {α : Type} [Record α] (format : Format) (text : String) : Option α :=
  (format.read? text).bind (ofValue? format)

def write? {α : Type} [Written α] (format : Format) (a : α) : Option String :=
  format.write? (toValue a)

end Record

end SignalChain
