/-!
# Integers of documents

The integers that document formats can hold: 64 bits, with a sign or without.
-/

namespace SignalChain

namespace Document

def isSigned64 (n : Int) : Bool :=
  -0x8000000000000000 <= n && n <= 0x7FFFFFFFFFFFFFFF

def isUnsigned64 (n : Nat) : Bool :=
  n <= 0xFFFFFFFFFFFFFFFF

/-- Whether an integer has 64 bits, with a sign or without. -/
def isInteger64 (n : Int) : Bool :=
  isSigned64 n || (0 <= n && isUnsigned64 n.toNat)

end Document

end SignalChain
