import SignalChain.Chain.Matching
import SignalChain.Proofs.Text.Blank
import SignalChain.Proofs.Text.Sigma

/-!
# Letter case in the two matchers

The substring matcher compares lowercase forms of whole texts.  It takes no
notice of the order of its two texts and of white space around them.  It finds a
reference in every text that holds it, unless a letter beside the reference would
turn a capital sigma at its beginning or end.

The exact matcher looks at the case of ASCII letters only.  It accepts a pair with
one lowercase form exactly when no letter beyond ASCII is written in two cases,
and on texts that are not blank it is an equivalence.
-/

namespace SignalChain

namespace Matcher

open Text

/-! ## The substring matcher -/

theorem substring_iff {reference name : String} :
    substring reference name = true ↔
      trim reference.toList ≠ [] ∧ trim name.toList ≠ [] ∧
        (lowercase (trim name.toList) <:+: lowercase (trim reference.toList) ∨
          lowercase (trim reference.toList) <:+: lowercase (trim name.toList)) := by
  unfold substring
  rw [ne_eq, ne_eq, ← @lowercase_eq_nil_iff (trim reference.toList),
    ← @lowercase_eq_nil_iff (trim name.toList)]
  generalize lowercase (trim reference.toList) = reference
  generalize lowercase (trim name.toList) = name
  have hcontains : (reference == name || occursIn name reference || occursIn reference name) =
      true ↔ name <:+: reference ∨ reference <:+: name := by
    simp only [Bool.or_eq_true, beq_iff_eq, occursIn_iff_isInfix, or_assoc]
    exact or_iff_right_of_imp fun heq => Or.inl (heq ▸ List.infix_refl _)
  rw [← hcontains]
  cases reference <;> cases name <;> simp

theorem substring_comm (reference name : String) :
    substring reference name = substring name reference := by
  rw [Bool.eq_iff_iff, substring_iff, substring_iff, and_left_comm, or_comm]

theorem substring_of_pads {reference reference' name name' : String}
    (hreference : Pads reference.toList reference'.toList)
    (hname : Pads name.toList name'.toList) :
    substring reference' name' = substring reference name := by
  simp only [substring, trim_of_pads hreference, trim_of_pads hname]

/-- A reference is found where each of its sigmas keeps its form. -/
theorem substring_of_keepsSigmas {reference name : String} {before after : List Char}
    (hne : trim reference.toList ≠ [])
    (hname : trim name.toList = before ++ trim reference.toList ++ after)
    (hkeeps : KeepsSigmas before (trim reference.toList) after) :
    substring reference name = true := by
  refine substring_iff.2 ⟨hne, fun hnil => hne ?_, Or.inr ?_⟩
  · rw [hnil] at hname
    exact (List.append_eq_nil_iff.1 (List.append_eq_nil_iff.1 hname.symm).1).2
  · rw [hname]
    exact hkeeps.lowercase_infix

theorem substring_of_isSettled {reference name : String} (hne : trim reference.toList ≠ [])
    (hsettled : IsSettled (trim reference.toList))
    (hname : trim reference.toList <:+: trim name.toList) : substring reference name = true := by
  obtain ⟨before, after, heq⟩ := hname
  exact substring_of_keepsSigmas hne heq.symm (hsettled.keepsSigmas before after)

/-- A reference without a capital sigma is found in every text that holds it. -/
theorem substring_of_no_sigma {reference name : String} (hne : trim reference.toList ≠ [])
    (hsigma : 'Σ' ∉ trim reference.toList)
    (hname : trim reference.toList <:+: trim name.toList) : substring reference name = true :=
  substring_of_isSettled hne (isSettled_of_no_sigma hsigma) hname

theorem exists_missed_of_not_isSettled {reference : String}
    (h : ¬ IsSettled (trim reference.toList)) :
    ∃ name : String, trim reference.toList <:+: trim name.toList ∧
      substring reference name = false := by
  obtain ⟨before, after, hletter, hnot, hnot'⟩ := exists_letter_of_not_isSettled h
  have htrimmed : IsTrimmed (before ++ trim reference.toList ++ after) := by
    have hblank : isBlank 'a' = false := by decide
    rcases hletter with ⟨rfl, rfl⟩ | ⟨rfl, rfl⟩
    · rw [List.append_nil]
      exact (isTrimmed_singleton hblank).append (isTrimmed_trim _)
    · rw [List.nil_append]
      exact (isTrimmed_trim _).append (isTrimmed_singleton hblank)
  let name := String.ofList (before ++ trim reference.toList ++ after)
  have hname : trim name.toList = before ++ trim reference.toList ++ after := by
    rw [String.toList_ofList, htrimmed.trim_eq]
  refine ⟨name, ⟨before, after, hname.symm⟩, Bool.eq_false_iff.2 fun hmatch => ?_⟩
  obtain ⟨-, -, hinfix⟩ := substring_iff.1 hmatch
  rw [hname] at hinfix
  exact hinfix.elim hnot' hnot

/--
The substring matcher takes its two texts in either order and overlooks white
space around them.  It finds a reference in a text that holds it wherever the
capital sigmas of the reference keep their form there; and it finds it in every
such text exactly when no letter beside the reference turns one of them.
-/
theorem substring_finds_pieces (reference name : String) :
    substring reference name = substring name reference ∧
      (∀ reference' name' : String, Pads reference.toList reference'.toList →
        Pads name.toList name'.toList → substring reference' name' = substring reference name) ∧
      (∀ before after, trim reference.toList ≠ [] →
        trim name.toList = before ++ trim reference.toList ++ after →
        KeepsSigmas before (trim reference.toList) after → substring reference name = true) ∧
      ((∀ other : String, trim reference.toList <:+: trim other.toList →
          substring reference other = true) ↔
        trim reference.toList ≠ [] ∧ IsSettled (trim reference.toList)) := by
  refine ⟨substring_comm reference name, fun _ _ => substring_of_pads,
    fun _ _ => substring_of_keepsSigmas, fun h => ⟨?_, ?_⟩, ?_⟩
  · exact (substring_iff.1 (h reference (List.infix_refl _))).1
  · by_contra hsettled
    obtain ⟨other, hother, hmissed⟩ := exists_missed_of_not_isSettled hsettled
    exact Bool.false_ne_true (hmissed.symm.trans (h other hother))
  · rintro ⟨hne, hsettled⟩ other hother
    exact substring_of_isSettled hne hsettled hother

theorem substring_finds_pieces_stereo :
    substring " ΣΤΕΡΕΟ" "ΗΧΟΣ ΣΤΕΡΕΟ" = true ∧ substring "ΗΧΟΣ ΣΤΕΡΕΟ" "ΣΤΕΡΕΟ" = true := by
  have hpads : Pads "ΣΤΕΡΕΟ".toList " ΣΤΕΡΕΟ".toList :=
    ⟨[' '], [], by decide, by decide, by decide⟩
  have hsettled : IsSettled "ΣΤΕΡΕΟ".toList := by decide +kernel
  obtain ⟨hcomm, hblanks, hkeeps, -⟩ := substring_finds_pieces "ΣΤΕΡΕΟ" "ΗΧΟΣ ΣΤΕΡΕΟ"
  have hmatch := hkeeps "ΗΧΟΣ ".toList [] (by decide) (by decide)
    (hsettled.keepsSigmas "ΗΧΟΣ ".toList [])
  exact ⟨(hblanks _ _ hpads (Pads.refl _)).trans hmatch, hcomm.symm.trans hmatch⟩

/-- A sigma at the end of a reference is a final one, and within a word it is not. -/
theorem substring_misses_final_sigma :
    trim "ΑΣ".toList ≠ [] ∧ trim "ΑΣ".toList <:+: trim "ΑΣΑ".toList ∧
      substring "ΑΣ" "ΑΣΑ" = false := by
  refine ⟨by decide, ⟨[], ['Α'], by decide⟩, by decide +kernel⟩

/-! ## The exact matcher -/

/-- One lowercase form without the white space around it, and not the empty one. -/
def SameLowercase (reference name : String) : Prop :=
  lowercase (trim reference.toList) = lowercase (trim name.toList) ∧
    lowercase (trim reference.toList) ≠ []

instance (reference name : String) : Decidable (SameLowercase reference name) :=
  inferInstanceAs (Decidable (_ ∧ _))

theorem exact_iff {reference name : String} :
    exact reference name = true ↔
      ¬ AllBlank reference.toList ∧ SameSpelling reference.toList name.toList := by
  rw [sameSpelling_iff, ← trim_eq_nil_iff]
  simp [exact]

theorem exact_iff_sameLowercase {reference name : String} :
    exact reference name = true ↔
      SameLowercase reference name ∧
        List.Forall₂ SameBeyondAscii (trim reference.toList) (trim name.toList) := by
  rw [exact_iff, sameSpelling_iff, lowercaseAscii_eq_iff, ← trim_eq_nil_iff,
    ← lowercase_eq_nil_iff, SameLowercase, and_comm (b := _ ≠ _), and_assoc]

theorem exact_iff_of_ascii {reference name : String}
    (hreference : ∀ c ∈ trim reference.toList, c.toNat < 128)
    (hname : ∀ c ∈ trim name.toList, c.toNat < 128) :
    exact reference name = true ↔ SameLowercase reference name := by
  rw [exact_iff, sameSpelling_iff, ← trim_eq_nil_iff, ← lowercase_eq_nil_iff, SameLowercase,
    and_comm, lowercase, lowercase, lowercaseAfter_of_ascii hreference,
    lowercaseAfter_of_ascii hname]

theorem exact_equivalence :
    Equivalence fun reference name : { text : String // ¬ AllBlank text.toList } =>
      exact reference name = true where
  refl text := exact_iff.2 ⟨text.2, sameSpelling_iff.2 rfl⟩
  symm {_ name} h :=
    exact_iff.2 ⟨name.2, sameSpelling_iff.2 (sameSpelling_iff.1 (exact_iff.1 h).2).symm⟩
  trans {reference _ _} h h' :=
    exact_iff.2 ⟨reference.2, sameSpelling_iff.2 <|
      (sameSpelling_iff.1 (exact_iff.1 h).2).trans (sameSpelling_iff.1 (exact_iff.1 h').2)⟩

/--
The exact matcher accepts a pair exactly when the two have one lowercase form,
which is not empty, and no character beyond ASCII differs.  So on ASCII texts the
lowercase form decides.  On texts that are not blank the matcher is an
equivalence, whose classes are the spellings of a name in ASCII case.
-/
theorem exact_ignores_ascii_case (reference name : String) :
    (exact reference name = true ↔
      SameLowercase reference name ∧
        List.Forall₂ SameBeyondAscii (trim reference.toList) (trim name.toList)) ∧
      ((∀ c ∈ trim reference.toList, c.toNat < 128) → (∀ c ∈ trim name.toList, c.toNat < 128) →
        (exact reference name = true ↔ SameLowercase reference name)) ∧
      (Equivalence fun reference name : { text : String // ¬ AllBlank text.toList } =>
        exact reference name = true) ∧
      (exact reference name = true ↔
        ¬ AllBlank reference.toList ∧ SameSpelling reference.toList name.toList) :=
  ⟨exact_iff_sameLowercase, exact_iff_of_ascii, exact_equivalence, exact_iff⟩

theorem exact_ignores_ascii_case_plate :
    exact "plate REVERB" " Plate Reverb" = true := by
  have hascii : ∀ {cs : List Char}, cs.all (fun c => decide (c.toNat < 128)) = true →
      ∀ c ∈ cs, c.toNat < 128 := fun h c hc => of_decide_eq_true (List.all_eq_true.1 h c hc)
  obtain ⟨-, hexact, -⟩ := exact_ignores_ascii_case "plate REVERB" " Plate Reverb"
  exact (hexact (hascii (by decide)) (hascii (by decide))).2 (by decide)

/-- A letter beyond ASCII has to be written in the same case. -/
theorem exact_tells_accented_cases :
    SameLowercase "É" "é" ∧ exact "É" "é" = false ∧ substring "É" "é" = true := by
  refine ⟨by decide +kernel, by decide, by decide +kernel⟩

end Matcher

end SignalChain
