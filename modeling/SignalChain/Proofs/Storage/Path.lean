import SignalChain.Storage.Path

/-!
# Names inside directories

Paths are compared by their components.  A name that is joined to a directory
is one component more at the end, also where the directory is given with a
slash after it, as a single point or as no text at all.
-/

namespace SignalChain

namespace Storage

namespace Path

theorem pieces_ne_nil (cs : List Char) : pieces cs ≠ [] := by
  induction cs with
  | nil => simp [pieces]
  | cons c rest ih =>
      unfold pieces
      split
      · simp
      · split <;> simp

theorem pieces_cons_of_ne {c : Char} {rest piece : List Char} {others : List (List Char)}
    (hc : c ≠ '/') (h : pieces rest = piece :: others) :
    pieces (c :: rest) = (c :: piece) :: others := by
  simp [pieces, hc, h]

theorem pieces_append_slash (u v : List Char) :
    pieces (u ++ '/' :: v) = pieces u ++ pieces v := by
  induction u with
  | nil => simp [pieces]
  | cons c rest ih =>
      by_cases hc : c = '/'
      · simp [pieces, hc, ih]
      · obtain ⟨piece, others, h⟩ := List.exists_cons_of_ne_nil (pieces_ne_nil rest)
        have happend : pieces (rest ++ '/' :: v) = piece :: (others ++ pieces v) := by
          rw [ih, h, List.cons_append]
        rw [List.cons_append, pieces_cons_of_ne hc happend, pieces_cons_of_ne hc h,
          List.cons_append]

theorem pieces_of_not_mem {u : List Char} (h : '/' ∉ u) : pieces u = [u] := by
  induction u with
  | nil => rfl
  | cons c rest ih =>
      simp only [List.mem_cons, not_or] at h
      exact pieces_cons_of_ne (Ne.symm h.1) (ih h.2)

/-- A text that is one name: it has no slash and is no point. -/
structure IsName (name : String) : Prop where
  isEmpty : name.isEmpty = false
  not_mem : '/' ∉ name.toList
  ne_point : name ≠ "."

theorem IsName.isAbsolute {name : String} (h : IsName name) : isAbsolute name = false := by
  have hmem := h.not_mem
  unfold Path.isAbsolute
  cases hname : name.toList with
  | nil => rfl
  | cons c rest =>
      rw [hname] at hmem
      simp only [List.mem_cons, not_or] at hmem
      simpa using Ne.symm hmem.1

section Join

variable {name : String} (hname : IsName name) (directory : String)

include hname

theorem steps_join : steps (join directory name) = steps directory ++ [name] := by
  have hpieces : pieces name.toList = [name.toList] := pieces_of_not_mem hname.not_mem
  have hfull : name.toList.isEmpty = false := by
    simpa [String.isEmpty_iff] using hname.isEmpty
  unfold join steps
  rw [hname.isAbsolute]
  by_cases hempty : directory.isEmpty = true
  · obtain rfl : directory = "" := String.isEmpty_iff.1 hempty
    simp [hpieces, hfull, pieces]
  · by_cases hslash : endsInSlash directory = true
    · obtain ⟨u, hu⟩ : ∃ u, directory.toList = u ++ ['/'] := by
        simpa [endsInSlash, List.getLast?_eq_some_iff] using hslash
      simp [hslash, hu, pieces_append_slash, hpieces, hfull, pieces]
    · simp [hempty, hslash, pieces_append_slash, hpieces, hfull]

theorem names_join : names (join directory name) = names directory ++ [name] := by
  simp [names, steps_join hname, hname.ne_point]

theorem isAbsolute_join : isAbsolute (join directory name) = isAbsolute directory := by
  cases hchars : directory.toList with
  | nil =>
      obtain rfl : directory = "" := String.toList_eq_nil_iff.1 hchars
      simpa [join, isAbsolute] using hname.isAbsolute
  | cons c rest =>
      unfold join
      rw [hname.isAbsolute]
      cases directory.isEmpty || endsInSlash directory <;> simp [isAbsolute, hchars]

theorem components_join :
    components (join directory name) = components directory ++ [name] := by
  unfold components
  rw [isAbsolute_join hname, names_join hname, steps_join hname]
  cases isAbsolute directory with
  | true => rfl
  | false =>
      cases steps directory with
      | nil => simp [hname.ne_point]
      | cons step rest => by_cases hpoint : step = "." <;> simp [hpoint]

theorem isInside_join : isInside directory (join directory name) = true := by
  rw [isInside, components_join hname, List.isPrefixOf_iff_prefix]
  exact List.prefix_append ..

/-- A path that does not begin with the point is elsewhere, though it leads to the same place. -/
example : isInside (join "." "rigscope") "rigscope/own.yaml" = false := by decide +kernel

theorem join_isEmpty : (join directory name).isEmpty = false := by
  have hsteps := steps_join hname directory
  cases hempty : (join directory name).isEmpty with
  | false => rfl
  | true =>
      rw [String.isEmpty_iff.1 hempty] at hsteps
      simp [steps, pieces] at hsteps

end Join

end Path

end Storage

end SignalChain
