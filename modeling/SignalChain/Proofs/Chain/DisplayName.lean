import Mathlib.Data.List.Chain
import SignalChain.Chain.DisplayName
import SignalChain.Proofs.Text.Words

/-!
# What a display name keeps

White space and underscores part the words of a name, and so does a capital
letter where a word begins.  A display name has the letters of the model's name
in order and a single blank between two words.  It has the words of a name that
is already a display name, so making it twice changes nothing.

The whole of it is the relation `Displays`, which puts a blank between two
letters exactly where something parts them.  The program computes it, and every
property of display names is read off it.
-/

namespace SignalChain

namespace DisplayName

open Text

/-! ## Words of a name -/

/-- What stands between words: white space and underscores. -/
def isSeparator (c : Char) : Bool :=
  c == '_' || isBlank c

/-- Nothing but separators. -/
def AllSeparators (gap : List Char) : Prop :=
  ∀ c ∈ gap, isSeparator c = true

/-- The characters of a name that are not separators, in order. -/
def letters (name : List Char) : List Char :=
  name.filter fun c => !isSeparator c

/--
A word begins at `y`: a capital after a lowercase letter or a digit, or the last
of several capitals if a lowercase letter follows.
-/
def AtBoundary (x y : Char) (after : List Char) : Prop :=
  isUppercase y = true ∧
    (isLowercase x = true ∨ x.isDigit = true ∨
      isUppercase x = true ∧ after.head?.any isLowercase = true)

instance (x y : Char) (after : List Char) : Decidable (AtBoundary x y after) :=
  inferInstanceAs (Decidable (_ ∧ (_ ∨ _ ∨ _ ∧ _)))

example : AtBoundary 'S' 'D' "eluxe".toList ∧ ¬ AtBoundary 'U' 'S' "Deluxe".toList := by
  decide

/-- A name that begins with a letter, and its display name. -/
inductive Respaced : List Char → List Char → Prop
  | last {x : Char} {gap : List Char} :
      isSeparator x = false → AllSeparators gap → Respaced (x :: gap) [x]
  | joined {x y : Char} {rest out : List Char} :
      isSeparator x = false → ¬ AtBoundary x y rest → Respaced (y :: rest) (y :: out) →
        Respaced (x :: y :: rest) (x :: y :: out)
  | parted {x y : Char} {gap rest out : List Char} :
      isSeparator x = false → AllSeparators gap → (gap = [] → AtBoundary x y rest) →
        Respaced (y :: rest) (y :: out) → Respaced (x :: (gap ++ y :: rest)) (x :: ' ' :: y :: out)

/-- A name and its display name. -/
inductive Displays : List Char → List Char → Prop
  | blank {gap : List Char} : AllSeparators gap → Displays gap []
  | shown {gap body out : List Char} :
      AllSeparators gap → Respaced body out → Displays (gap ++ body) out

/-! ## Separators -/

theorem isSeparator_cases {c : Char} (h : isSeparator c = true) : c = '_' ∨ isBlank c = true := by
  simpa [isSeparator] using h

theorem isBlank_of_letter {c : Char} (h : isSeparator c = false) : isBlank c = false := by
  simp only [isSeparator, Bool.or_eq_false_iff] at h
  exact h.2

theorem isSeparator_blank : isSeparator ' ' = true := by
  decide

theorem ne_blank_of_letter {c : Char} (h : isSeparator c = false) : c ≠ ' ' := by
  rintro rfl
  exact Bool.false_ne_true (h.symm.trans isSeparator_blank)

theorem isUppercase_of_isSeparator {c : Char} (h : isSeparator c = true) :
    isUppercase c = false := by
  rcases isSeparator_cases h with rfl | hblank
  · decide
  · exact isUppercase_of_isBlank hblank

theorem isLowercase_of_isSeparator {c : Char} (h : isSeparator c = true) :
    isLowercase c = false := by
  rcases isSeparator_cases h with rfl | hblank
  · decide
  · exact isLowercase_of_isBlank hblank

theorem isDigit_of_isSeparator {c : Char} (h : isSeparator c = true) : c.isDigit = false := by
  rcases isSeparator_cases h with rfl | hblank
  · decide
  · exact isDigit_of_isBlank hblank

theorem not_atBoundary_before_separator {y : Char} (h : isSeparator y = true) (x : Char)
    (after : List Char) : ¬ AtBoundary x y after := by
  rintro ⟨hupper, -⟩
  rw [isUppercase_of_isSeparator h] at hupper
  cases hupper

theorem not_atBoundary_after_separator {x : Char} (h : isSeparator x = true) (y : Char)
    (after : List Char) : ¬ AtBoundary x y after := by
  rintro ⟨-, hlower | hdigit | ⟨hupper, -⟩⟩
  · exact Bool.false_ne_true ((isLowercase_of_isSeparator h).symm.trans hlower)
  · exact Bool.false_ne_true ((isDigit_of_isSeparator h).symm.trans hdigit)
  · exact Bool.false_ne_true ((isUppercase_of_isSeparator h).symm.trans hupper)

theorem AllSeparators.nil : AllSeparators [] :=
  fun _ hc => absurd hc List.not_mem_nil

theorem AllSeparators.tail {gap : List Char} {c : Char} (h : AllSeparators (c :: gap)) :
    AllSeparators gap :=
  (List.forall_mem_cons.1 h).2

theorem AllSeparators.not_mem {gap : List Char} (h : AllSeparators gap) {c : Char}
    (hc : isSeparator c = false) : c ∉ gap :=
  fun hmem => Bool.false_ne_true (hc.symm.trans (h c hmem))

theorem AllSeparators.letters_eq {gap : List Char} (h : AllSeparators gap) : letters gap = [] :=
  List.filter_eq_nil_iff.2 fun c hc => by rw [h c hc]; exact Bool.false_ne_true

@[simp]
theorem letters_append (name name' : List Char) :
    letters (name ++ name') = letters name ++ letters name' :=
  List.filter_append _ _

theorem letters_cons_of_letter {x : Char} (h : isSeparator x = false) (name : List Char) :
    letters (x :: name) = x :: letters name :=
  List.filter_cons_of_pos (by rw [h]; rfl)

theorem letters_cons_blank (name : List Char) : letters (' ' :: name) = letters name :=
  List.filter_cons_of_neg (by rw [isSeparator_blank]; exact Bool.false_ne_true)

/-- A letter after separators comes after all of them. -/
theorem AllSeparators.append_eq_append {gap body before after : List Char} {x : Char}
    (h : AllSeparators gap) (hx : isSeparator x = false)
    (heq : gap ++ body = before ++ x :: after) :
    ∃ between, before = gap ++ between ∧ body = between ++ x :: after := by
  rcases List.append_eq_append_iff.1 heq with
    ⟨between, hbefore, hbody⟩ | ⟨beyond, hgap, hbeyond⟩
  · exact ⟨between, hbefore, hbody⟩
  · cases beyond with
    | nil => exact ⟨[], by rw [hgap, List.append_nil, List.append_nil], hbeyond.symm⟩
    | cons c beyond =>
        obtain ⟨rfl, -⟩ := List.cons.inj hbeyond
        exact absurd (hgap ▸ List.mem_append_right before List.mem_cons_self) (h.not_mem hx)

theorem separators_or_letter (name : List Char) :
    AllSeparators name ∨
      ∃ gap y rest, name = gap ++ y :: rest ∧ AllSeparators gap ∧ isSeparator y = false := by
  induction name with
  | nil => exact Or.inl AllSeparators.nil
  | cons c name ih =>
      cases hc : isSeparator c with
      | false => exact Or.inr ⟨[], c, name, rfl, AllSeparators.nil, hc⟩
      | true =>
          rcases ih with hall | ⟨gap, y, rest, rfl, hgap, hy⟩
          · exact Or.inl (List.forall_mem_cons.2 ⟨hc, hall⟩)
          · exact Or.inr ⟨c :: gap, y, rest, rfl, List.forall_mem_cons.2 ⟨hc, hgap⟩, hy⟩

/-! ## The program computes the relation -/

theorem spaceOut_cons_of_letter {y : Char} (h : isSeparator y = false) (rest : List Char) :
    spaceOut (y :: rest) = y :: spaceOut rest := by
  simp only [isSeparator, Bool.or_eq_false_iff] at h
  rw [spaceOut, List.map_cons, h.1, if_neg Bool.false_ne_true]
  rfl

theorem spaceOut_cons_of_separator {c : Char} (h : isSeparator c = true) :
    ∃ b, isBlank b = true ∧ ∀ rest, spaceOut (c :: rest) = b :: spaceOut rest := by
  cases hc : c == '_' with
  | true => exact ⟨' ', rfl, fun rest => by rw [spaceOut, List.map_cons, hc, if_pos rfl]; rfl⟩
  | false =>
      refine ⟨c, by simpa [isSeparator, hc] using h, fun rest => ?_⟩
      rw [spaceOut, List.map_cons, hc, if_neg Bool.false_ne_true]
      rfl

theorem beginsLowercase_spaceOut (after : List Char) :
    beginsLowercase (spaceOut after) = after.head?.any isLowercase := by
  cases after with
  | nil => rfl
  | cons z rest =>
      cases hz : isSeparator z with
      | true =>
          obtain ⟨b, hb, hspace⟩ := spaceOut_cons_of_separator hz
          rw [hspace, beginsLowercase, isLowercase_of_isBlank hb]
          exact (isLowercase_of_isSeparator hz).symm
      | false =>
          rw [spaceOut_cons_of_letter hz]
          rfl

theorem beginsWord_iff {x y : Char} {after : List Char} :
    beginsWord x y (spaceOut after) = true ↔ AtBoundary x y after := by
  simp only [beginsWord, AtBoundary, Bool.and_eq_true, Bool.or_eq_true,
    beginsLowercase_spaceOut, or_assoc]

theorem beginsWord_of_isBlank {b : Char} (h : isBlank b = true) (x : Char) (rest : List Char) :
    beginsWord x b rest = false := by
  rw [beginsWord, isUppercase_of_isBlank h, Bool.false_and]

theorem AllSeparators.allBlank_spaceOut {gap : List Char} (h : AllSeparators gap) :
    AllBlank (spaceOut gap) := by
  intro b hb
  obtain ⟨c, hc, rfl⟩ := List.mem_map.1 hb
  cases hc' : c == '_' with
  | true => rfl
  | false => simpa [isSeparator, hc'] using h c hc

/-- Blanks are kept as they are, and no word begins right after one. -/
theorem separateAfter_blank_append {b : Char} (hb : isBlank b = true) {gap : List Char}
    (hgap : AllSeparators gap) {y : Char} (hy : isSeparator y = false) (rest : List Char) :
    separateAfter b (spaceOut (gap ++ y :: rest)) =
      spaceOut gap ++ separate (spaceOut (y :: rest)) := by
  induction gap generalizing b with
  | nil =>
      have hfirst : beginsWord b y (spaceOut rest) = false :=
        Bool.eq_false_iff.2 fun hbegins =>
          not_atBoundary_after_separator (by simp [isSeparator, hb]) y rest
            (beginsWord_iff.1 hbegins)
      rw [List.nil_append, spaceOut_cons_of_letter hy, separateAfter, hfirst,
        if_neg Bool.false_ne_true]
      rfl
  | cons c gap ih =>
      obtain ⟨b', hb', hspace⟩ := spaceOut_cons_of_separator (hgap c List.mem_cons_self)
      rw [List.cons_append, hspace, hspace, separateAfter, beginsWord_of_isBlank hb',
        if_neg Bool.false_ne_true, ih hb' hgap.tail]
      rfl

theorem separateAfter_separators {gap : List Char} (h : AllSeparators gap) (x : Char) :
    separateAfter x (spaceOut gap) = spaceOut gap := by
  induction gap generalizing x with
  | nil => rfl
  | cons c gap ih =>
      obtain ⟨b, hb, hspace⟩ := spaceOut_cons_of_separator (h c List.mem_cons_self)
      rw [hspace, separateAfter, beginsWord_of_isBlank hb, if_neg Bool.false_ne_true, ih h.tail]

theorem separate_separators_append {gap : List Char} (hgap : AllSeparators gap) {y : Char}
    (hy : isSeparator y = false) (rest : List Char) :
    separate (spaceOut (gap ++ y :: rest)) = spaceOut gap ++ separate (spaceOut (y :: rest)) := by
  cases gap with
  | nil => rfl
  | cons c gap =>
      obtain ⟨b, hb, hspace⟩ := spaceOut_cons_of_separator (hgap c List.mem_cons_self)
      rw [List.cons_append, hspace, hspace, separate, separateAfter_blank_append hb hgap.tail hy]
      rfl

/-- Where two letters are parted, only blanks are put between them, and at least one. -/
theorem separateAfter_parted {x y : Char} {gap rest : List Char} (hgap : AllSeparators gap)
    (hy : isSeparator y = false) (hword : gap = [] → AtBoundary x y rest) :
    ∃ blanks, blanks ≠ [] ∧ AllBlank blanks ∧
      separateAfter x (spaceOut (gap ++ y :: rest)) =
        blanks ++ separate (spaceOut (y :: rest)) := by
  cases gap with
  | nil =>
      refine ⟨[' '], List.cons_ne_nil _ _, by decide, ?_⟩
      rw [List.nil_append, spaceOut_cons_of_letter hy, separateAfter,
        beginsWord_iff.2 (hword rfl), if_pos rfl]
      rfl
  | cons c gap =>
      obtain ⟨b, hb, hspace⟩ := spaceOut_cons_of_separator (hgap c List.mem_cons_self)
      refine ⟨spaceOut (c :: gap), by rw [hspace]; exact List.cons_ne_nil _ _,
        hgap.allBlank_spaceOut, ?_⟩
      rw [List.cons_append, hspace, hspace, separateAfter, beginsWord_of_isBlank hb,
        if_neg Bool.false_ne_true, separateAfter_blank_append hb hgap.tail hy]
      rfl

namespace Respaced

variable {s d : List Char}

theorem letter {x : Char} (h : Respaced (x :: s) d) : isSeparator x = false := by
  cases h with
  | last hx => exact hx
  | joined hx => exact hx
  | parted hx => exact hx

theorem unwords_eq (h : Respaced s d) (word : List Char) :
    unwords (wordsFrom word (separate (spaceOut s))) = word.reverse ++ d := by
  induction h generalizing word with
  | @last x gap hx hgap =>
      rw [spaceOut_cons_of_letter hx, separate, wordsFrom_cons (isBlank_of_letter hx),
        separateAfter_separators hgap, wordsFrom_cons_of_allBlank hgap.allBlank_spaceOut,
        List.reverse_cons]
      rfl
  | @joined x y rest out hx hword h ih =>
      have hbegins : beginsWord x y (spaceOut rest) = false :=
        Bool.eq_false_iff.2 fun hbegins => hword (beginsWord_iff.1 hbegins)
      have hjoined : separateAfter x (spaceOut (y :: rest)) = separate (spaceOut (y :: rest)) := by
        rw [spaceOut_cons_of_letter h.letter, separateAfter, hbegins, if_neg Bool.false_ne_true]
        rfl
      rw [spaceOut_cons_of_letter hx, separate, wordsFrom_cons (isBlank_of_letter hx), hjoined, ih,
        List.reverse_cons, List.append_assoc]
      rfl
  | @parted x y gap rest out hx hgap hword h ih =>
      obtain ⟨blanks, hne, hblank, hparted⟩ := separateAfter_parted hgap h.letter hword
      have hrest : wordsFrom [] (separate (spaceOut (y :: rest))) ≠ [] := by
        rw [spaceOut_cons_of_letter h.letter, separate, wordsFrom_cons (isBlank_of_letter h.letter)]
        exact wordsFrom_cons_ne_nil y [] _
      rw [spaceOut_cons_of_letter hx, separate, wordsFrom_cons (isBlank_of_letter hx), hparted,
        wordsFrom_cons_blank_append hblank hne, unwords_cons _ hrest, ih, List.reverse_cons,
        List.append_assoc]
      rfl

end Respaced

/-- Every name that begins with a letter has a display name that begins with it. -/
theorem exists_respaced {x : Char} (hx : isSeparator x = false) (rest : List Char) :
    ∃ out, Respaced (x :: rest) (x :: out) := by
  rcases separators_or_letter rest with hgap | ⟨gap, y, after, rfl, hgap, hy⟩
  · exact ⟨[], Respaced.last hx hgap⟩
  · obtain ⟨out, hout⟩ := exists_respaced hy after
    by_cases hword : gap = [] ∧ ¬ AtBoundary x y after
    · rw [hword.1]
      exact ⟨y :: out, Respaced.joined hx hword.2 hout⟩
    · exact ⟨' ' :: y :: out, Respaced.parted hx hgap
        (fun hnil => by_contra fun hno => hword ⟨hnil, hno⟩) hout⟩
termination_by rest.length
decreasing_by
  subst_vars
  simp only [List.length_append, List.length_cons]
  omega

theorem Displays.unwords_eq {s d : List Char} (h : Displays s d) :
    unwords (words (separate (spaceOut s))) = d := by
  cases h with
  | blank hgap =>
      have hblanks : separate (spaceOut s) = spaceOut s := by
        cases s with
        | nil => rfl
        | cons c gap => exact congrArg (_ :: ·) (separateAfter_separators hgap.tail _)
      rw [hblanks, words_of_allBlank hgap.allBlank_spaceOut]
      rfl
  | @shown gap body out hgap h =>
      obtain ⟨y, rest, rfl⟩ : ∃ y rest, body = y :: rest := by
        cases h <;> exact ⟨_, _, rfl⟩
      rw [separate_separators_append hgap h.letter, words,
        wordsFrom_blank_append hgap.allBlank_spaceOut, h.unwords_eq]
      rfl

theorem exists_displays (s : List Char) : ∃ d, Displays s d := by
  rcases separators_or_letter s with hgap | ⟨gap, y, rest, rfl, hgap, hy⟩
  · exact ⟨[], Displays.blank hgap⟩
  · obtain ⟨out, hout⟩ := exists_respaced hy rest
    exact ⟨y :: out, Displays.shown hgap hout⟩

theorem displays_iff {s d : List Char} :
    Displays s d ↔ unwords (words (separate (spaceOut s))) = d := by
  refine ⟨Displays.unwords_eq, ?_⟩
  rintro rfl
  obtain ⟨d, hd⟩ := exists_displays s
  rwa [hd.unwords_eq]

/-! ## What the relation keeps -/

namespace Respaced

variable {s d : List Char}

theorem filter_eq (h : Respaced s d) : d.filter (fun c => c != ' ') = letters s := by
  have hkept : ∀ {x : Char}, isSeparator x = false → ∀ rest : List Char,
      (x :: rest).filter (fun c => c != ' ') = x :: rest.filter (fun c => c != ' ') :=
    fun hx _ => List.filter_cons_of_pos (bne_iff_ne.2 (ne_blank_of_letter hx))
  induction h with
  | last hx hgap => rw [hkept hx, letters_cons_of_letter hx, hgap.letters_eq, List.filter_nil]
  | joined hx _ _ ih => rw [hkept hx, letters_cons_of_letter hx, ih]
  | parted hx hgap _ _ ih =>
      rw [hkept hx, letters_cons_of_letter hx, letters_append, hgap.letters_eq, List.nil_append,
        ← ih]
      rfl

theorem eq_blank_or_letter (h : Respaced s d) : ∀ c ∈ d, c = ' ' ∨ isSeparator c = false := by
  induction h with
  | last hx _ => exact List.forall_mem_singleton.2 (Or.inr hx)
  | joined hx _ _ ih => exact List.forall_mem_cons.2 ⟨Or.inr hx, ih⟩
  | parted hx _ _ _ ih =>
      exact List.forall_mem_cons.2 ⟨Or.inr hx, List.forall_mem_cons.2 ⟨Or.inl rfl, ih⟩⟩

theorem letters_eq (h : Respaced s d) : letters d = letters s := by
  rw [← h.filter_eq]
  refine List.filter_congr fun c hc => ?_
  rcases h.eq_blank_or_letter c hc with rfl | hletter
  · rfl
  · rw [hletter, bne_iff_ne.2 (ne_blank_of_letter hletter), Bool.not_false]

theorem letters_out {y : Char} {rest out : List Char} (h : Respaced (y :: rest) (y :: out)) :
    letters out = letters rest := by
  have hletters := h.letters_eq
  rw [letters_cons_of_letter h.letter, letters_cons_of_letter h.letter] at hletters
  exact (List.cons.inj hletters).2

theorem isTrimmed (h : Respaced s d) : IsTrimmed d := by
  have hletter : ∀ {x : Char}, isSeparator x = false → ∀ (rest : List Char) (c : Char),
      c ∈ (x :: rest).head? → isBlank c = false := by
    intro x hx rest c hc
    cases hc
    exact isBlank_of_letter hx
  induction h with
  | last hx _ => exact ⟨hletter hx [], hletter hx []⟩
  | joined hx _ _ ih => exact ih.cons (isBlank_of_letter hx)
  | @parted x y gap rest out hx _ _ _ ih =>
      refine ⟨hletter hx _, fun c hc => ih.last c ?_⟩
      rwa [List.getLast?_cons_cons, List.getLast?_cons_cons] at hc

/-- No two blanks stand side by side. -/
theorem isChain (h : Respaced s d) :
    d.IsChain fun c c' => isBlank c = true → isBlank c' = false := by
  induction h with
  | last _ _ => exact List.IsChain.singleton _
  | joined hx _ _ ih =>
      refine List.IsChain.cons_cons (fun hblank => ?_) ih
      exact absurd (hblank.symm.trans (isBlank_of_letter hx)) Bool.false_ne_true.symm
  | parted hx _ _ h ih =>
      refine List.IsChain.cons_cons (fun hblank => ?_) (List.IsChain.cons_cons (fun _ => ?_) ih)
      · exact absurd (hblank.symm.trans (isBlank_of_letter hx)) Bool.false_ne_true.symm
      · exact isBlank_of_letter h.letter

/-- What follows a letter in the display name, if it is lowercase, follows it in the name. -/
theorem atBoundary_of_out {x y : Char} {rest out : List Char} (h : Respaced (y :: rest) (y :: out))
    (hword : AtBoundary x y out) : AtBoundary x y rest := by
  obtain ⟨hupper, hbefore⟩ := hword
  refine ⟨hupper, hbefore.imp_right (Or.imp_right fun ⟨hx, hlower⟩ => ⟨hx, ?_⟩)⟩
  cases h with
  | last => cases hlower
  | joined => exact hlower
  | parted =>
      exact absurd ((isLowercase_of_isSeparator isSeparator_blank).symm.trans hlower)
        Bool.false_ne_true

/-- No word begins within a word of the display name. -/
theorem not_atBoundary (h : Respaced s d) {before after : List Char} {x y : Char}
    (hd : d = before ++ x :: y :: after) : ¬ AtBoundary x y after := by
  induction h generalizing before with
  | last =>
      have hlength := congrArg List.length hd
      simp only [List.length_append, List.length_cons, List.length_nil] at hlength
      omega
  | joined _ hword h ih =>
      cases before with
      | nil =>
          cases hd
          exact fun hout => hword (h.atBoundary_of_out hout)
      | cons _ before => exact ih (List.cons.inj hd).2
  | parted _ _ _ _ ih =>
      match before with
      | [] =>
          cases hd
          exact not_atBoundary_before_separator isSeparator_blank _ _
      | [_] =>
          cases hd
          exact not_atBoundary_after_separator isSeparator_blank _ _
      | _ :: _ :: before => exact ih (List.cons.inj (List.cons.inj hd).2).2

/-- Letters with something between them in the name have a blank between them. -/
theorem parts (h : Respaced s d) {before gap after : List Char} {x y : Char}
    (hs : s = before ++ x :: (gap ++ y :: after)) (hx : isSeparator x = false)
    (hy : isSeparator y = false) (hgap : AllSeparators gap) (hne : gap ≠ []) :
    ∃ before' after', d = before' ++ x :: ' ' :: y :: after' ∧
      letters before' = letters before ∧ letters after' = letters after := by
  induction h generalizing before with
  | last hx' hgap' =>
      have hlength := congrArg (fun cs => (letters cs).length) hs
      simp only [letters_cons_of_letter hx', hgap'.letters_eq, letters_append,
        letters_cons_of_letter hx, letters_cons_of_letter hy, List.length_append,
        List.length_cons, List.length_nil] at hlength
      omega
  | joined hx' _ h ih =>
      cases before with
      | nil =>
          obtain ⟨g, gap, rfl⟩ := List.exists_cons_of_ne_nil hne
          cases hs
          exact absurd List.mem_cons_self (hgap.not_mem h.letter)
      | cons b before =>
          obtain ⟨rfl, hrest⟩ := List.cons.inj hs
          obtain ⟨before', after', hd, hbefore, hafter⟩ := ih hrest
          refine ⟨_ :: before', after', by rw [hd, List.cons_append], ?_, hafter⟩
          rw [letters_cons_of_letter hx', letters_cons_of_letter hx', hbefore]
  | @parted x' y' gap' rest out hx' hgap' _ h ih =>
      cases before with
      | nil =>
          obtain ⟨rfl, hrest⟩ := List.cons.inj hs
          obtain ⟨between, rfl, hbody⟩ := hgap'.append_eq_append hy hrest
          cases between with
          | nil =>
              cases hbody
              exact ⟨[], out, rfl, rfl, h.letters_out⟩
          | cons c between =>
              cases hbody
              exact absurd (List.mem_append_right gap' List.mem_cons_self)
                (hgap.not_mem h.letter)
      | cons b before =>
          obtain ⟨rfl, hrest⟩ := List.cons.inj hs
          obtain ⟨between, rfl, hbody⟩ := hgap'.append_eq_append hx hrest
          obtain ⟨before', after', hd, hbefore, hafter⟩ := ih hbody
          refine ⟨x' :: ' ' :: before', after', by rw [hd]; rfl, ?_, hafter⟩
          rw [letters_cons_of_letter hx', letters_cons_of_letter hx', letters_cons_blank, hbefore,
            letters_append, hgap'.letters_eq, List.nil_append]

/-- A blank stands for separators of the name, or at a place where a word begins in it. -/
theorem blanks (h : Respaced s d) {before after : List Char} (hd : d = before ++ ' ' :: after) :
    ∃ before' x gap y after', s = before' ++ x :: (gap ++ y :: after') ∧ AllSeparators gap ∧
      (gap = [] → AtBoundary x y after') ∧
      letters before = letters before' ++ [x] ∧ letters after = y :: letters after' := by
  induction h generalizing before with
  | last hx _ =>
      cases before with
      | nil => exact absurd (List.cons.inj hd).1 (ne_blank_of_letter hx)
      | cons b before => simp at hd
  | @joined x y rest out hx _ h ih =>
      cases before with
      | nil => exact absurd (List.cons.inj hd).1 (ne_blank_of_letter hx)
      | cons b before =>
          obtain ⟨rfl, hout⟩ := List.cons.inj hd
          obtain ⟨before', x', gap, y', after', hs, hgap, hword, hbefore, hafter⟩ := ih hout
          refine ⟨x :: before', x', gap, y', after', by rw [hs]; rfl, hgap, hword, ?_, hafter⟩
          rw [letters_cons_of_letter hx, letters_cons_of_letter hx, hbefore, List.cons_append]
  | @parted x y gap rest out hx hgap hword h ih =>
      match before with
      | [] => exact absurd (List.cons.inj hd).1 (ne_blank_of_letter hx)
      | [b] =>
          cases hd
          refine ⟨[], x, gap, y, rest, rfl, hgap, hword, letters_cons_of_letter hx [], ?_⟩
          rw [letters_cons_of_letter h.letter, h.letters_out]
      | b :: b' :: before =>
          obtain ⟨rfl, hblank⟩ := List.cons.inj hd
          obtain ⟨rfl, hout⟩ := List.cons.inj hblank
          obtain ⟨before', x', gap', y', after', hs, hgap', hword', hbefore, hafter⟩ := ih hout
          refine ⟨x :: (gap ++ before'), x', gap', y', after', by rw [hs]; simp, hgap', hword', ?_,
            hafter⟩
          rw [letters_cons_of_letter hx, letters_cons_of_letter hx, letters_cons_blank, hbefore,
            letters_append, hgap.letters_eq, List.nil_append, List.cons_append]

/-- A display name is its own. -/
theorem self (h : Respaced s d) : Respaced d d := by
  induction h with
  | last hx _ => exact Respaced.last hx AllSeparators.nil
  | joined hx hword h ih =>
      exact Respaced.joined hx (fun hout => hword (h.atBoundary_of_out hout)) ih
  | parted hx _ _ _ ih =>
      have hgap : AllSeparators [' '] := List.forall_mem_singleton.2 isSeparator_blank
      have hparted := Respaced.parted hx hgap (fun hnil => by cases hnil) ih
      exact hparted

end Respaced

/-- What a display name `d` has of a name `s`. -/
structure IsDisplayForm (s d : List Char) : Prop where
  /-- No letter is lost, doubled or moved. -/
  lossless : d.filter (fun c => c != ' ') = letters s
  noUnderscore : '_' ∉ d
  blank : ∀ c ∈ d, isBlank c = true → c = ' '
  trimmed : IsTrimmed d
  single : d.IsChain fun c c' => isBlank c = true → isBlank c' = false
  /-- Letters with separators between them have a blank between them. -/
  parts : ∀ before x gap y after, s = before ++ x :: (gap ++ y :: after) →
    isSeparator x = false → isSeparator y = false → AllSeparators gap → gap ≠ [] →
      ∃ before' after', d = before' ++ x :: ' ' :: y :: after' ∧
        letters before' = letters before ∧ letters after' = letters after
  /-- No word begins within a word. -/
  joins : ∀ before x y after, d = before ++ x :: y :: after → ¬ AtBoundary x y after
  /-- A blank stands for separators, or at a place where a word begins in `s`. -/
  blanks : ∀ before after, d = before ++ ' ' :: after →
    ∃ before' x gap y after', s = before' ++ x :: (gap ++ y :: after') ∧ AllSeparators gap ∧
      (gap = [] → AtBoundary x y after') ∧
      letters before = letters before' ++ [x] ∧ letters after = y :: letters after'

theorem Displays.isDisplayForm {s d : List Char} (h : Displays s d) : IsDisplayForm s d := by
  cases h with
  | blank hgap =>
      refine ⟨hgap.letters_eq.symm, List.not_mem_nil, fun _ hc => absurd hc List.not_mem_nil,
        ⟨fun _ hc => (by cases hc), fun _ hc => (by cases hc)⟩, List.IsChain.nil, ?_, ?_, ?_⟩
      · intro before x gap y after hs hx _ _ _
        exact absurd (hs ▸ List.mem_append_right before List.mem_cons_self) (hgap.not_mem hx)
      · exact fun before x y after hd => by simp at hd
      · exact fun before after hd => by simp at hd
  | @shown lead body out hlead h =>
      have hbody : letters (lead ++ body) = letters body := by
        rw [letters_append, hlead.letters_eq, List.nil_append]
      refine ⟨h.filter_eq.trans hbody.symm, fun hc => ?_, fun c hc hblank => ?_, h.isTrimmed,
        h.isChain, ?_, fun _ _ _ _ => h.not_atBoundary, ?_⟩
      · rcases h.eq_blank_or_letter _ hc with hc | hc <;> cases hc
      · refine (h.eq_blank_or_letter c hc).resolve_right fun hletter => ?_
        exact Bool.false_ne_true ((isBlank_of_letter hletter).symm.trans hblank)
      · intro before x gap y after hs hx hy hgap hne
        obtain ⟨between, rfl, hbetween⟩ := hlead.append_eq_append hx hs
        obtain ⟨before', after', hd, hbefore, hafter⟩ := h.parts hbetween hx hy hgap hne
        refine ⟨before', after', hd, ?_, hafter⟩
        rw [hbefore, letters_append, hlead.letters_eq, List.nil_append]
      · intro before after hd
        obtain ⟨before', x, gap, y, after', hs, hgap, hword, hbefore, hafter⟩ := h.blanks hd
        refine ⟨lead ++ before', x, gap, y, after', by rw [hs, List.append_assoc], hgap, hword, ?_,
          hafter⟩
        rw [hbefore, letters_append, hlead.letters_eq, List.nil_append]

theorem Displays.self {s d : List Char} (h : Displays s d) : Displays d d := by
  cases h with
  | blank => exact Displays.blank AllSeparators.nil
  | shown _ h => exact Displays.shown AllSeparators.nil h.self

/-! ## Vendors' marks -/

/-- The name without the vendors' marks at its beginning, as long as there is one. -/
structure Stripped (name rest : List Char) : Prop where
  marks : ∃ marks : List (List Char), (∀ mark ∈ marks, mark ∈ vendorMarks) ∧
    name = marks.flatten ++ rest
  bare : ∀ mark ∈ vendorMarks, ¬ mark <+: rest

theorem dropVendor?_eq_none_iff {name : List Char} :
    dropVendor? name = none ↔ ∀ mark ∈ vendorMarks, ¬ mark <+: name := by
  simp [dropVendor?, dropStart?, List.findSome?_eq_none_iff]

theorem dropVendors_of_none {name : List Char} (h : dropVendor? name = none) :
    dropVendors name = name := by
  unfold dropVendors
  split
  · rfl
  · next hsome => cases h.symm.trans hsome

theorem dropVendors_of_some {name rest : List Char} (h : dropVendor? name = some rest) :
    dropVendors name = dropVendors rest := by
  rw [dropVendors]
  split
  · next hnone => cases h.symm.trans hnone
  · next hsome => cases h.symm.trans hsome; rfl

theorem stripped_dropVendors (name : List Char) : Stripped name (dropVendors name) := by
  cases h : dropVendor? name with
  | none =>
      rw [dropVendors_of_none h]
      exact ⟨⟨[], fun _ hmark => absurd hmark List.not_mem_nil, rfl⟩, dropVendor?_eq_none_iff.1 h⟩
  | some rest =>
      obtain ⟨mark, hmark, hdrop⟩ := List.exists_of_findSome?_eq_some h
      obtain ⟨⟨marks, hmarks, hrest⟩, hbare⟩ := stripped_dropVendors rest
      rw [dropVendors_of_some h]
      refine ⟨⟨mark :: marks, List.forall_mem_cons.2 ⟨hmark, hmarks⟩, ?_⟩, hbare⟩
      rw [List.flatten_cons, List.append_assoc, ← hrest]
      exact eq_append_of_dropStart? hdrop
termination_by name.length
decreasing_by exact length_lt_of_dropVendor? h

/-- Every vendor's mark has an underscore. -/
theorem dropVendors_of_no_underscore {name : List Char} (h : '_' ∉ name) :
    dropVendors name = name := by
  refine dropVendors_of_none (dropVendor?_eq_none_iff.2 fun mark hmark hprefix => h ?_)
  have hall : vendorMarks.all (fun mark => mark.contains '_') = true := by decide
  exact hprefix.subset (List.contains_iff_mem.1 (List.all_eq_true.1 hall mark hmark))

/-! ## Display names -/

theorem displays_ofModel (model : String) :
    Displays (dropVendors (trim model.toList)) (ofModel model).toList := by
  rw [ofModel, String.toList_ofList]
  exact displays_iff.2 rfl

theorem ofModel_ofModel (model : String) : ofModel (ofModel model) = ofModel model := by
  have h := displays_ofModel model
  have hform := h.isDisplayForm
  refine String.toList_inj.1 ?_
  calc
    (ofModel (ofModel model)).toList
        = unwords (words (separate (spaceOut (dropVendors (trim (ofModel model).toList))))) :=
      String.toList_ofList
    _ = unwords (words (separate (spaceOut (ofModel model).toList))) := by
      rw [hform.trimmed.trim_eq, dropVendors_of_no_underscore hform.noUnderscore]
    _ = (ofModel model).toList := h.self.unwords_eq

/--
The display name of a model is a normal form of the name without its vendors'
marks: it keeps the letters and the words, puts a blank where a word begins and
nowhere else, and is its own display name.  A blank that was an underscore or
other white space counts as one that was there.
-/
theorem ofModel_normalForm (model : String) :
    Stripped (trim model.toList) (dropVendors (trim model.toList)) ∧
      IsDisplayForm (dropVendors (trim model.toList)) (ofModel model).toList ∧
      ofModel (ofModel model) = ofModel model :=
  ⟨stripped_dropVendors _, (displays_ofModel model).isDisplayForm, ofModel_ofModel model⟩

example : ofModel "HD2_AmpUSDeluxe" = "Amp US Deluxe" := by
  cbv

end DisplayName

end SignalChain
