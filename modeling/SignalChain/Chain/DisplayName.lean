import SignalChain.Text.Blank
import SignalChain.Text.Case
import SignalChain.Text.Search

/-!
# Display names

The name of a model as people read it: without the vendor's marks at its
beginning, with blanks for underscores, and with a blank where a capital letter
begins a word.
-/

namespace SignalChain

namespace DisplayName

open Text

/-- The marks that vendors put before a model's name. -/
def vendorMarks : List (List Char) :=
  ["HD2_".toList, "VIC_".toList, "L6SPB_".toList, "L6C_".toList]

def dropVendor? (name : List Char) : Option (List Char) :=
  vendorMarks.findSome? (fun mark => dropStart? mark name)

theorem length_lt_of_dropVendor? {name rest : List Char}
    (h : dropVendor? name = some rest) :
    rest.length < name.length := by
  obtain ⟨mark, hmem, hdrop⟩ := List.exists_of_findSome?_eq_some h
  have hname := eq_append_of_dropStart? hdrop
  have hlen : 0 < mark.length := by
    simp only [vendorMarks, List.mem_cons, List.not_mem_nil, or_false] at hmem
    rcases hmem with rfl | rfl | rfl | rfl <;> decide
  rw [hname, List.length_append]
  omega

def dropVendors (name : List Char) : List Char :=
  match h : dropVendor? name with
  | none => name
  | some rest =>
      have := length_lt_of_dropVendor? h
      dropVendors rest
termination_by name.length

def beginsLowercase : List Char -> Bool
  | [] => false
  | c :: _ => isLowercase c

/--
Whether a word begins at a letter: a capital after a lowercase letter or a
digit, or the last of several capitals if a lowercase letter follows.
-/
def beginsWord (before letter : Char) (after : List Char) : Bool :=
  isUppercase letter &&
    (isLowercase before || before.isDigit ||
      (isUppercase before && beginsLowercase after))

/-- Put a blank before each word that begins after `before`. -/
def separateAfter (before : Char) : List Char -> List Char
  | [] => []
  | c :: rest =>
      if beginsWord before c rest then ' ' :: c :: separateAfter c rest
      else c :: separateAfter c rest

def separate : List Char -> List Char
  | [] => []
  | c :: rest => c :: separateAfter c rest

def spaceOut (name : List Char) : List Char :=
  name.map (fun c => if c == '_' then ' ' else c)

def ofModel (model : String) : String :=
  let name := spaceOut (dropVendors (trim model.toList))
  String.ofList (unwords (words (separate name)))

end DisplayName

end SignalChain
