import SignalChain.Text.Blank
import SignalChain.Text.Case
import SignalChain.Text.Search

/-!
# Matching names

Hints name blocks as people write them.  A matcher decides whether a reference
means a block that goes by a given name.  A blank reference means no block.
-/

namespace SignalChain

/-- Whether a reference means a name. -/
abbrev Matcher :=
  String -> String -> Bool

namespace Matcher

open Text

/-- One of the two occurs in the other, in any case and without outer blanks. -/
def substring : Matcher := fun reference name =>
  let reference := lowercase (trim reference.toList)
  let name := lowercase (trim name.toList)
  if reference.isEmpty || name.isEmpty then
    false
  else
    reference == name || occursIn name reference || occursIn reference name

/-- Both are the same, in any case of ASCII letters and without outer blanks. -/
def exact : Matcher := fun reference name =>
  let reference := trim reference.toList
  !reference.isEmpty &&
    lowercaseAscii reference == lowercaseAscii (trim name.toList)

def meansAny (matcher : Matcher) (reference : String) (names : List String) :
    Bool :=
  names.any (matcher reference)

end Matcher

end SignalChain
