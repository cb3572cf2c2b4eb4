/-!
# Finding one text in another

Whether a text occurs in another as a contiguous piece, and removal of a
beginning.
-/

namespace SignalChain

namespace Text

def occursIn (piece : List Char) : List Char -> Bool
  | [] => piece.isEmpty
  | c :: rest => piece.isPrefixOf (c :: rest) || occursIn piece rest

theorem occursIn_iff_isInfix (piece text : List Char) :
    occursIn piece text = true ↔ piece <:+: text := by
  induction text with
  | nil =>
      simp [occursIn]
  | cons c rest ih =>
      simp [occursIn, ih, List.infix_cons_iff]

/-- What follows `start`, if the text begins with it. -/
def dropStart? (start text : List Char) : Option (List Char) :=
  if start.isPrefixOf text then some (text.drop start.length) else none

theorem eq_append_of_dropStart? {start text rest : List Char}
    (h : dropStart? start text = some rest) :
    text = start ++ rest := by
  unfold dropStart? at h
  split at h
  · next hp =>
      obtain ⟨tail, rfl⟩ := List.isPrefixOf_iff_prefix.1 hp
      simpa using h
  · cases h

end Text

end SignalChain
