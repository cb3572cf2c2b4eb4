import Mathlib.Logic.Relation
import SignalChain.Proofs.Chain.Category
import SignalChain.Proofs.Chain.DisplayName

/-!
# Vendors' marks do not matter

However many vendors' marks stand before the name of a model, it is classified
alike, and it has the same display name unless it begins with white space.  No
mark begins another, so a stack of marks is taken off one by one in its own
order; each ends with an underscore, which no keyword has, so no keyword reaches
from a mark into the name.
-/

namespace SignalChain

namespace DisplayName

open Text

/-- A model's name after a stack of marks. -/
def marked (marks : List (List Char)) (model : String) : String :=
  String.ofList (marks.flatten ++ model.toList)

/-! ## Taking marks off -/

/-- One turn of taking marks off: the name after its first mark. -/
def Strips (name rest : List Char) : Prop :=
  dropVendor? name = some rest

theorem wellFounded_strips : WellFounded fun rest name => Strips name rest :=
  Subrelation.wf (fun h => length_lt_of_dropVendor? h) (measure List.length).wf

theorem strips_dropVendors (name : List Char) :
    Relation.ReflTransGen Strips name (dropVendors name) := by
  cases h : dropVendor? name with
  | none =>
      rw [dropVendors_of_none h]
  | some rest =>
      rw [dropVendors_of_some h]
      exact .head h (strips_dropVendors rest)
termination_by name.length
decreasing_by exact length_lt_of_dropVendor? h

theorem not_strips_dropVendors (name rest : List Char) : ¬ Strips (dropVendors name) rest := by
  have hbare := dropVendor?_eq_none_iff.2 (stripped_dropVendors name).bare
  rw [Strips, hbare]
  exact fun hsome => by cases hsome

/-- No mark begins another, so the order in which they are sought does not matter. -/
theorem dropVendor?_append {mark : List Char} (h : mark ∈ vendorMarks) (rest : List Char) :
    dropVendor? (mark ++ rest) = some rest := by
  have hfree : ∀ mark ∈ vendorMarks, ∀ other ∈ vendorMarks, mark <+: other → mark = other := by
    decide
  cases hdrop : dropVendor? (mark ++ rest) with
  | none => exact absurd (List.prefix_append mark rest) (dropVendor?_eq_none_iff.1 hdrop mark h)
  | some found =>
      obtain ⟨other, hother, hstart⟩ := List.exists_of_findSome?_eq_some hdrop
      have hsplit := eq_append_of_dropStart? hstart
      have hsame : mark = other := by
        rcases List.prefix_or_prefix_of_prefix (List.prefix_append mark rest)
          ⟨found, hsplit.symm⟩ with hmark | hmark
        · exact hfree mark h other hother hmark
        · exact (hfree other hother mark h hmark).symm
      rw [← hsame] at hsplit
      rw [List.append_cancel_left hsplit]

section Marks

variable {marks : List (List Char)} (h : ∀ mark ∈ marks, mark ∈ vendorMarks)
include h

theorem dropVendors_append_flatten (name : List Char) :
    dropVendors (marks.flatten ++ name) = dropVendors name := by
  induction marks with
  | nil => rfl
  | cons mark marks ih =>
      obtain ⟨hmark, hmarks⟩ := List.forall_mem_cons.1 h
      rw [List.flatten_cons, List.append_assoc, dropVendors_of_some (dropVendor?_append hmark _),
        ih hmarks]

/-! ## Display names -/

theorem isTrimmed_flatten : IsTrimmed marks.flatten := by
  have hletters : vendorMarks.all (fun mark => mark.all fun c => !isBlank c) = true := by decide
  refine isTrimmed_of_forall fun c hc => ?_
  obtain ⟨mark, hmark, hmem⟩ := List.mem_flatten.1 hc
  have hall := List.all_eq_true.1 (List.all_eq_true.1 hletters mark (h mark hmark)) c hmem
  simpa using hall

theorem trim_flatten_append {name : List Char} (hname : ∀ c ∈ name.head?, isBlank c = false) :
    trim (marks.flatten ++ name) = marks.flatten ++ trim name := by
  obtain ⟨after, hafter, hsplit⟩ := exists_append_trim hname
  have htrimmed := (isTrimmed_flatten h).append (isTrimmed_trim name)
  calc
    trim (marks.flatten ++ name) = trim ((marks.flatten ++ trim name) ++ after) := by
      rw [List.append_assoc, ← hsplit]
    _ = marks.flatten ++ trim name := by
      rw [trim_append_blank hafter, htrimmed.trim_eq]

theorem ofModel_marked {model : String}
    (hmodel : ∀ c ∈ model.toList.head?, isBlank c = false) :
    ofModel (marked marks model) = ofModel model := by
  unfold ofModel marked
  rw [String.toList_ofList, trim_flatten_append h hmodel, dropVendors_append_flatten h]

/-! ## Categories -/

omit h in
/-- A keyword is found behind a mark if it is in the rest, and at no other place. -/
theorem infix_lowercasePlain_append {rule : List String × Category}
    (hrule : rule ∈ Category.keywordRules) {keyword : String} (hkeyword : keyword ∈ rule.1)
    {mark : List Char} (hmark : mark ∈ vendorMarks) (rest : List Char) :
    keyword.toList <:+: lowercasePlain (mark ++ rest) ↔
      keyword.toList <:+: lowercasePlain rest := by
  have hlast : ∀ mark ∈ vendorMarks, mark = mark.dropLast ++ ['_'] := by decide
  have hmissing : ∀ rule ∈ Category.keywordRules, ∀ keyword ∈ rule.1,
      '_' ∉ keyword.toList ∧
        ∀ mark ∈ vendorMarks, occursIn keyword.toList (lowercasePlain mark.dropLast) = false := by
    decide +kernel
  obtain ⟨hunderscore, hinside⟩ := hmissing rule hrule keyword hkeyword
  have hseam : lowercasePlain (mark ++ rest) =
      lowercasePlain mark.dropLast ++ '_' :: lowercasePlain rest := by
    have hone : lowercasePlain ['_'] = ['_'] := by decide
    conv_lhs => rw [hlast mark hmark]
    rw [lowercasePlain_append, lowercasePlain_append, hone, List.append_assoc]
    rfl
  rw [hseam, infix_append_cons_iff hunderscore]
  refine or_iff_right fun hinfix => Bool.false_ne_true ?_
  rw [← hinside mark hmark]
  exact (occursIn_iff_isInfix _ _).2 hinfix

theorem infix_lowercasePlain_flatten_append {rule : List String × Category}
    (hrule : rule ∈ Category.keywordRules) {keyword : String} (hkeyword : keyword ∈ rule.1)
    (name : List Char) :
    keyword.toList <:+: lowercasePlain (marks.flatten ++ name) ↔
      keyword.toList <:+: lowercasePlain name := by
  induction marks with
  | nil => rfl
  | cons mark marks ih =>
      obtain ⟨hmark, hmarks⟩ := List.forall_mem_cons.1 h
      rw [List.flatten_cons, List.append_assoc, infix_lowercasePlain_append hrule hkeyword hmark,
        ih hmarks]

theorem hasKeyword_marked_iff {rule : List String × Category}
    (hrule : rule ∈ Category.keywordRules) (model : String) :
    Category.HasKeyword (marked marks model) rule.1 ↔ Category.HasKeyword model rule.1 := by
  unfold Category.HasKeyword marked
  refine exists_congr fun keyword => and_congr_right fun hkeyword => ?_
  have hsigma := Category.hasNoSigma_of_mem rule hrule keyword hkeyword
  rw [String.toList_ofList, infix_lowercase_iff hsigma, infix_lowercase_iff hsigma,
    infix_lowercasePlain_flatten_append h hrule hkeyword]

theorem category_marked (model : String) (typeCode : Int32) :
    Category.ofModel (marked marks model) typeCode = Category.ofModel model typeCode := by
  unfold Category.ofModel
  rw [Category.ofName_congr fun rule hrule => hasKeyword_marked_iff h hrule model]

/--
A stack of vendors' marks before the name of a model changes neither its category
nor, if the name does not begin with white space, its display name.  Of every
name, marks can be taken off only finitely often, and taking them off ends where
no mark is left at the beginning.
-/
theorem vendors_never_matter (model : String) :
    (∀ typeCode, Category.ofModel (marked marks model) typeCode =
        Category.ofModel model typeCode) ∧
      ((∀ c ∈ model.toList.head?, isBlank c = false) →
        ofModel (marked marks model) = ofModel model) ∧
      (WellFounded fun rest name => Strips name rest) ∧
      ∀ name, Relation.ReflTransGen Strips name (dropVendors name) ∧
        ∀ rest, ¬ Strips (dropVendors name) rest :=
  ⟨category_marked h model, ofModel_marked h, wellFounded_strips,
    fun name => ⟨strips_dropVendors name, not_strips_dropVendors name⟩⟩

end Marks

theorem vendors_never_matter_stack :
    Category.ofModel "L6C_HD2_L6C_ReverbHall " 0 = Category.ofModel "ReverbHall " 0 ∧
      ofModel "L6C_HD2_L6C_ReverbHall " = ofModel "ReverbHall " := by
  have hmarks : ∀ mark ∈ ["L6C_".toList, "HD2_".toList, "L6C_".toList], mark ∈ vendorMarks := by
    decide
  have hmodel : ∀ c ∈ "ReverbHall ".toList.head?, isBlank c = false := by
    intro c hc
    cases hc
    rfl
  have hmarked : marked ["L6C_".toList, "HD2_".toList, "L6C_".toList] "ReverbHall " =
      "L6C_HD2_L6C_ReverbHall " := by
    decide
  obtain ⟨hcategory, hname, -⟩ := vendors_never_matter hmarks "ReverbHall "
  rw [hmarked] at hcategory hname
  exact ⟨hcategory 0, hname hmodel⟩

end DisplayName

end SignalChain
