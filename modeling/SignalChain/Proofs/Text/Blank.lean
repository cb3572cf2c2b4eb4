import Mathlib.Data.List.TakeWhile
import SignalChain.Proofs.Text.Case
import SignalChain.Text.Blank

/-!
# White space around a text, and the case of its letters

Trimming a text does away with the white space around it, and with nothing else.
It does not look at the case of letters, so two texts that differ only in white
space around them and in the case of ASCII letters still do so, at most in case,
after trimming.
-/

namespace SignalChain

namespace Text

/-- Nothing but white space. -/
def AllBlank (cs : List Char) : Prop :=
  ∀ c ∈ cs, isBlank c = true

/-- A text with nothing but white space before and after another one. -/
def Pads (core cs : List Char) : Prop :=
  ∃ before after, AllBlank before ∧ AllBlank after ∧ cs = before ++ core ++ after

/-- The same text but for white space around it and the case of ASCII letters. -/
def SameSpelling (cs ds : List Char) : Prop :=
  ∃ core core', Pads core cs ∧ Pads core' ds ∧ lowercaseAscii core = lowercaseAscii core'

/-- A text with no white space at either end. -/
structure IsTrimmed (cs : List Char) : Prop where
  head : ∀ c ∈ cs.head?, isBlank c = false
  last : ∀ c ∈ cs.getLast?, isBlank c = false

/-! ## Trimming -/

theorem trim_blank_append {blanks : List Char} (h : AllBlank blanks) (cs : List Char) :
    trim (blanks ++ cs) = trim cs := by
  unfold trim
  rw [List.dropWhile_append_of_pos h]

theorem trim_append_blank {blanks : List Char} (h : AllBlank blanks) (cs : List Char) :
    trim (cs ++ blanks) = trim cs := by
  have hreversed : AllBlank blanks.reverse := fun c hc => h c (List.mem_reverse.1 hc)
  unfold trim
  rw [List.dropWhile_append]
  by_cases hcs : (cs.dropWhile isBlank).isEmpty = true
  · rw [if_pos hcs, List.isEmpty_iff.1 hcs, List.dropWhile_eq_nil_iff.2 h]
  · rw [if_neg hcs, List.reverse_append, List.dropWhile_append_of_pos hreversed]

theorem trim_of_pads {core cs : List Char} (h : Pads core cs) : trim cs = trim core := by
  obtain ⟨before, after, hbefore, hafter, rfl⟩ := h
  rw [trim_append_blank hafter, trim_blank_append hbefore]

theorem pads_trim (cs : List Char) : Pads (trim cs) cs := by
  let body := cs.dropWhile isBlank
  have hbody : body = trim cs ++ (body.reverse.takeWhile isBlank).reverse := by
    have hsplit := List.takeWhile_append_dropWhile (p := isBlank) (l := body.reverse)
    have hreversed := congrArg List.reverse hsplit
    rw [List.reverse_append, List.reverse_reverse] at hreversed
    exact hreversed.symm
  refine ⟨cs.takeWhile isBlank, (body.reverse.takeWhile isBlank).reverse, ?_, ?_, ?_⟩
  · exact fun c hc => List.mem_takeWhile_imp hc
  · exact fun c hc => List.mem_takeWhile_imp (List.mem_reverse.1 hc)
  · rw [List.append_assoc, ← hbody]
    exact (List.takeWhile_append_dropWhile (p := isBlank) (l := cs)).symm

theorem head_dropWhile_isBlank (cs : List Char) :
    ∀ c ∈ (cs.dropWhile isBlank).head?, isBlank c = false := by
  intro c hc
  have hhead := List.head?_dropWhile_not isBlank cs
  rw [Option.mem_def.1 hc] at hhead
  simpa using hhead

theorem isTrimmed_trim (cs : List Char) : IsTrimmed (trim cs) := by
  constructor
  · intro c hc
    -- The text that is trimmed at its end only begins as the trimmed one does.
    obtain ⟨blanks, hbody⟩ : trim cs <+: cs.dropWhile isBlank :=
      List.reverse_suffix.1 (by rw [trim, List.reverse_reverse]; exact List.dropWhile_suffix _)
    refine head_dropWhile_isBlank cs c ?_
    rw [← hbody, List.head?_append, Option.mem_def.1 hc, Option.some_or]
    exact Option.mem_some_self c
  · intro c hc
    rw [trim, List.getLast?_reverse] at hc
    exact head_dropWhile_isBlank _ c hc

theorem IsTrimmed.trim_eq {cs : List Char} (h : IsTrimmed cs) : trim cs = cs := by
  have hdrop : ∀ ds : List Char, (∀ c ∈ ds.head?, isBlank c = false) →
      ds.dropWhile isBlank = ds := by
    intro ds hds
    cases ds with
    | nil => rfl
    | cons c rest => exact List.dropWhile_cons_of_neg (by rw [hds c rfl]; exact Bool.false_ne_true)
  rw [trim, hdrop cs h.head, hdrop cs.reverse (by rw [List.head?_reverse]; exact h.last),
    List.reverse_reverse]

theorem isTrimmed_of_forall {cs : List Char} (h : ∀ c ∈ cs, isBlank c = false) : IsTrimmed cs :=
  ⟨fun c hc => h c (List.mem_of_mem_head? hc), fun c hc => h c (List.mem_of_getLast? hc)⟩

theorem isTrimmed_singleton {c : Char} (hc : isBlank c = false) : IsTrimmed [c] :=
  isTrimmed_of_forall fun _ hd => List.mem_singleton.1 hd ▸ hc

theorem IsTrimmed.append {cs ds : List Char} (hcs : IsTrimmed cs) (hds : IsTrimmed ds) :
    IsTrimmed (cs ++ ds) := by
  constructor
  · intro c hc
    rw [List.head?_append] at hc
    exact (Option.or_eq_some_iff.1 hc).elim (hcs.head c) fun hc => hds.head c hc.2
  · intro c hc
    rw [List.getLast?_append] at hc
    exact (Option.or_eq_some_iff.1 hc).elim (hds.last c) fun hc => hcs.last c hc.2

theorem IsTrimmed.cons {cs : List Char} (h : IsTrimmed cs) {c : Char} (hc : isBlank c = false) :
    IsTrimmed (c :: cs) :=
  (isTrimmed_singleton hc).append h

/-- White space at the end is all that is lost of a text that does not begin with any. -/
theorem exists_append_trim {cs : List Char} (h : ∀ c ∈ cs.head?, isBlank c = false) :
    ∃ after, AllBlank after ∧ cs = trim cs ++ after := by
  obtain ⟨before, after, hbefore, hafter, hcs⟩ := pads_trim cs
  cases before with
  | nil => exact ⟨after, hafter, hcs⟩
  | cons b before =>
      have hhead : cs.head? = some b := by rw [hcs]; rfl
      exact absurd (hbefore b List.mem_cons_self) (by rw [h b hhead]; exact Bool.false_ne_true)

theorem trim_eq_nil_of_allBlank {cs : List Char} (h : AllBlank cs) : trim cs = [] := by
  unfold trim
  rw [List.dropWhile_eq_nil_iff.2 h]
  rfl

theorem trim_eq_nil_iff {cs : List Char} : trim cs = [] ↔ AllBlank cs := by
  refine ⟨fun h c hc => ?_, trim_eq_nil_of_allBlank⟩
  obtain ⟨before, after, hbefore, hafter, hcs⟩ := pads_trim cs
  rw [hcs, h, List.append_nil] at hc
  exact (List.mem_append.1 hc).elim (hbefore c) (hafter c)

theorem Pads.refl (cs : List Char) : Pads cs cs :=
  ⟨[], [], fun _ hc => absurd hc List.not_mem_nil, fun _ hc => absurd hc List.not_mem_nil,
    by rw [List.nil_append, List.append_nil]⟩

/-! ## The case of letters -/

theorem isBlank_toLower (c : Char) : isBlank c.toLower = isBlank c :=
  congr_toLower (by decide) c

theorem dropWhile_isBlank_lowercaseAscii (cs : List Char) :
    (lowercaseAscii cs).dropWhile isBlank = lowercaseAscii (cs.dropWhile isBlank) := by
  induction cs with
  | nil => rfl
  | cons c rest ih =>
      have hstep : lowercaseAscii (c :: rest) = c.toLower :: lowercaseAscii rest := rfl
      rw [hstep, List.dropWhile_cons, List.dropWhile_cons, isBlank_toLower]
      cases isBlank c with
      | true => exact ih
      | false => rfl

theorem trim_lowercaseAscii (cs : List Char) :
    trim (lowercaseAscii cs) = lowercaseAscii (trim cs) := by
  have hreverse : ∀ ds : List Char, (lowercaseAscii ds).reverse = lowercaseAscii ds.reverse :=
    fun _ => List.map_reverse.symm
  unfold trim
  rw [dropWhile_isBlank_lowercaseAscii, hreverse, dropWhile_isBlank_lowercaseAscii, hreverse]

theorem sameSpelling_iff {cs ds : List Char} :
    SameSpelling cs ds ↔ lowercaseAscii (trim cs) = lowercaseAscii (trim ds) := by
  constructor
  · rintro ⟨core, core', hcs, hds, hcore⟩
    calc
      lowercaseAscii (trim cs) = trim (lowercaseAscii core) := by
        rw [trim_of_pads hcs, trim_lowercaseAscii]
      _ = lowercaseAscii (trim ds) := by
        rw [hcore, trim_lowercaseAscii, trim_of_pads hds]
  · intro h
    exact ⟨trim cs, trim ds, pads_trim cs, pads_trim ds, h⟩

instance (cs : List Char) : Decidable (AllBlank cs) :=
  decidable_of_iff (cs.all isBlank = true) List.all_eq_true

instance (cs ds : List Char) : Decidable (SameSpelling cs ds) :=
  decidable_of_iff _ sameSpelling_iff.symm

end Text

end SignalChain
