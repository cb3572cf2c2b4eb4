import SignalChain.Proofs.Text.Blank

/-!
# Words between white space

White space parts words and is not itself seen, however much of it there is.
It has no case.
-/

namespace SignalChain

namespace Text

/-! ## White space has no case -/

theorem forall_isBlank {p : Char → Bool}
    (h : ((9 :: 10 :: 11 :: 12 :: 13 :: 32 :: 0x85 :: 0xA0 :: wideBlanks).all fun code =>
      p (Char.ofNat code)) = true) {c : Char} (hc : isBlank c = true) : p c = true := by
  have hcode : c.toNat ∈ 9 :: 10 :: 11 :: 12 :: 13 :: 32 :: 0x85 :: 0xA0 :: wideBlanks := by
    simp only [isBlank, Bool.or_eq_true, Bool.and_eq_true, beq_iff_eq, decide_eq_true_eq,
      List.contains_iff_mem] at hc
    simp only [List.mem_cons]
    rcases hc with (((rfl | hc) | hc) | hc) | hc
    · exact Or.inr <| Or.inr <| Or.inr <| Or.inr <| Or.inr <| Or.inl rfl
    · omega
    · omega
    · omega
    · simp [hc]
  rw [← Char.ofNat_toNat c]
  exact List.all_eq_true.1 h _ hcode

theorem isUppercase_of_isBlank {c : Char} (h : isBlank c = true) : isUppercase c = false := by
  have hall := forall_isBlank (p := fun c => !isUppercase c) (by decide +kernel) h
  simpa using hall

theorem isLowercase_of_isBlank {c : Char} (h : isBlank c = true) : isLowercase c = false := by
  have hall := forall_isBlank (p := fun c => !isLowercase c) (by decide +kernel) h
  simpa using hall

theorem isDigit_of_isBlank {c : Char} (h : isBlank c = true) : c.isDigit = false := by
  have hall := forall_isBlank (p := fun c => !c.isDigit) (by decide +kernel) h
  simpa using hall

/-! ## Words -/

section Words

variable {blanks : List Char}

theorem wordsFrom_cons {c : Char} (h : isBlank c = false) (word cs : List Char) :
    wordsFrom word (c :: cs) = wordsFrom (c :: word) cs := by
  rw [wordsFrom, h, if_neg Bool.false_ne_true]

theorem wordsFrom_blank_append (h : AllBlank blanks) (cs : List Char) :
    wordsFrom [] (blanks ++ cs) = wordsFrom [] cs := by
  induction blanks with
  | nil => rfl
  | cons c rest ih =>
      rw [List.cons_append, wordsFrom, if_pos (h c List.mem_cons_self), List.isEmpty_nil,
        if_pos rfl, ih fun d hd => h d (List.mem_cons_of_mem c hd)]

/-- White space ends the word under way. -/
theorem wordsFrom_cons_blank_append (h : AllBlank blanks) (hne : blanks ≠ []) (c : Char)
    (word cs : List Char) :
    wordsFrom (c :: word) (blanks ++ cs) = (c :: word).reverse :: wordsFrom [] cs := by
  obtain ⟨b, rest, rfl⟩ := List.exists_cons_of_ne_nil hne
  rw [List.cons_append, wordsFrom, if_pos (h b List.mem_cons_self), List.isEmpty_cons,
    if_neg Bool.false_ne_true, wordsFrom_blank_append fun d hd => h d (List.mem_cons_of_mem b hd)]

theorem wordsFrom_cons_of_allBlank (h : AllBlank blanks) (c : Char) (word : List Char) :
    wordsFrom (c :: word) blanks = [(c :: word).reverse] := by
  cases blanks with
  | nil => rfl
  | cons b rest =>
      have hends := wordsFrom_cons_blank_append h (List.cons_ne_nil b rest) c word []
      rwa [List.append_nil] at hends

theorem wordsFrom_cons_ne_nil (c : Char) (word cs : List Char) : wordsFrom (c :: word) cs ≠ [] := by
  induction cs generalizing c word with
  | nil => exact List.cons_ne_nil _ _
  | cons d rest ih =>
      unfold wordsFrom
      cases isBlank d with
      | true => exact List.cons_ne_nil _ _
      | false => exact ih d (c :: word)

theorem words_of_allBlank (h : AllBlank blanks) : words blanks = [] := by
  have hskip := wordsFrom_blank_append h []
  rwa [List.append_nil] at hskip

theorem unwords_cons (word : List Char) {rest : List (List Char)} (h : rest ≠ []) :
    unwords (word :: rest) = word ++ ' ' :: unwords rest := by
  obtain ⟨next, rest, rfl⟩ := List.exists_cons_of_ne_nil h
  rfl

end Words

end Text

end SignalChain
