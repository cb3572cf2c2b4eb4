/-!
# Columns

Texts brought to a width by blanks after them or before them; longer texts stay
as they are.
-/

namespace SignalChain

namespace Text

def atLeft (width : Nat) (s : String) : String :=
  s ++ String.ofList (List.replicate (width - s.length) ' ')

def atRight (width : Nat) (s : String) : String :=
  String.ofList (List.replicate (width - s.length) ' ') ++ s

def ofLines (lines : List String) : String :=
  String.join (lines.map (fun line => line ++ "\n"))

end Text

end SignalChain
