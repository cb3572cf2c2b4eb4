import SignalChain.Document.Integer
import SignalChain.Table

/-!
# Document values

What a JSON or TOML text says, before it is read as a record, and what a
record says before it is written.  Objects keep their fields in the order of
the text, repeated names included, since the records decide what a repeated
name means.

A value that a record carries along without interpreting it is *canonical*:
its objects are sorted by name without repetition and its numbers are those
that JSON can express.
-/

namespace SignalChain

namespace Document

inductive Value where
  | null
  | bool (flag : Bool)
  | int (n : Int)
  | float (x : Float)
  | text (s : String)
  | list (items : List Value)
  | object (fields : List (String × Value))
  /-- Well formed in the text, but with no value that a record could take. -/
  | unusable
deriving Inhabited

namespace Value

/-! ## Comparison -/

mutual

/-- Equality, in which numbers compare as numbers do. -/
def agrees : Value -> Value -> Bool
  | .null, .null => true
  | .bool a, .bool b => a == b
  | .int a, .int b => a == b
  | .float a, .float b => a == b
  | .text a, .text b => a == b
  | .list as, .list bs => agreesList as bs
  | .object as, .object bs => agreesFields as bs
  | _, _ => false

def agreesList : List Value -> List Value -> Bool
  | [], [] => true
  | a :: as, b :: bs => agrees a b && agreesList as bs
  | _, _ => false

def agreesFields : List (String × Value) -> List (String × Value) -> Bool
  | [], [] => true
  | (k, a) :: as, (l, b) :: bs => k == l && agrees a b && agreesFields as bs
  | _, _ => false

end

instance : BEq Value :=
  ⟨agrees⟩

/-! ## Canonical values -/

mutual

/-- Whether objects are sorted and numbers are in the range of JSON. -/
def isCanonical : Value -> Bool
  | .null => true
  | .bool _ => true
  | .int n => isInteger64 n
  | .float x => x.isFinite
  | .text _ => true
  | .list items => isCanonicalList items
  | .object fields =>
      isCanonicalFields fields &&
        decide (fields.Pairwise (fun a b => compare a.1 b.1 = .lt))
  | .unusable => false

def isCanonicalList : List Value -> Bool
  | [] => true
  | v :: rest => isCanonical v && isCanonicalList rest

def isCanonicalFields : List (String × Value) -> Bool
  | [] => true
  | (_, v) :: rest => isCanonical v && isCanonicalFields rest

end

mutual

/--
The canonical value of a value: of a repeated name the last field stays, and a
number without a finite value becomes null.
-/
def canonical? : Value -> Option Value
  | .null => some .null
  | .bool b => some (.bool b)
  | .int n => if isInteger64 n then some (.int n) else none
  | .float x => some (if x.isFinite then .float x else .null)
  | .text s => some (.text s)
  | .list items => (canonicalList? items).map .list
  | .object fields =>
      (canonicalFields? fields).map (fun fs => .object (Table.ofList fs).entries)
  | .unusable => none

def canonicalList? : List Value -> Option (List Value)
  | [] => some []
  | v :: rest => do
      let v <- canonical? v
      let rest <- canonicalList? rest
      some (v :: rest)

def canonicalFields? :
    List (String × Value) -> Option (List (String × Value))
  | [] => some []
  | (k, v) :: rest => do
      let v <- canonical? v
      let rest <- canonicalFields? rest
      some ((k, v) :: rest)

end

end Value

/-- A value that a record carries along. -/
structure Payload where
  value : Value
  canonical : value.isCanonical = true

def Payload.ofValue? (v : Value) : Option Payload :=
  match v.canonical? with
  | none => none
  | some w => if h : w.isCanonical = true then some ⟨w, h⟩ else none

instance : BEq Payload :=
  ⟨fun p q => p.value == q.value⟩

end Document

end SignalChain
