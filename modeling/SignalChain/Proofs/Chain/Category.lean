import Mathlib.Data.List.Find
import SignalChain.Chain.Category
import SignalChain.Proofs.Text.Keyword

/-!
# How a block is classified

A block on a path takes its category from its type code, or else from the first
rule of which a keyword occurs in the lowercase form of its model.  No keyword
has a sigma, so a keyword of a name is one of every name that the name is a piece
of, and a longer name goes by the same rule or an earlier one.  The case of ASCII
letters does not matter.
-/

namespace SignalChain

namespace Category

open Text

/-! ## Rules in order -/

/-- The categories that a name can give, those of earlier rules in front. -/
def byPriority : List Category :=
  [.cab, .distortion, .delay, .reverb, .dynamics, .modulation, .effect]

/-- The same category, or that of an earlier rule. -/
def NotLater (c c' : Category) : Prop :=
  c = c' ∨ [c, c'].Sublist byPriority

instance (c c' : Category) : Decidable (NotLater c c') :=
  inferInstanceAs (Decidable (_ ∨ _))

/-- One of the keywords occurs in the lowercase form of a model. -/
def HasKeyword (model : String) (keywords : List String) : Prop :=
  ∃ keyword ∈ keywords, keyword.toList <:+: lowercase model.toList

/-- The category of the first rule that has a keyword in a model, or effect without one. -/
inductive ByKeywords (model : String) : Category → Prop
  | rule {before after : List (List String × Category)} {rule : List String × Category}
      (split : keywordRules = before ++ rule :: after) (applies : HasKeyword model rule.1)
      (first : ∀ earlier ∈ before, ¬ HasKeyword model earlier.1) : ByKeywords model rule.2
  | effect (none : ∀ rule ∈ keywordRules, ¬ HasKeyword model rule.1) : ByKeywords model .effect

theorem categories_keywordRules : keywordRules.map (·.2) ++ [.effect] = byPriority :=
  rfl

theorem mentions_iff {model : String} {keywords : List String} :
    mentions (lowercase model.toList) keywords = true ↔ HasKeyword model keywords := by
  simp only [mentions, List.any_eq_true, occursIn_iff_isInfix, HasKeyword]

theorem byKeywords_ofName (model : String) :
    ByKeywords model (ofName (lowercase model.toList)) := by
  unfold ofName
  cases hrule : keywordRules.find? (fun rule => mentions (lowercase model.toList) rule.1) with
  | none =>
      exact .effect fun rule hmem hkeyword =>
        List.find?_eq_none.1 hrule rule hmem (mentions_iff.2 hkeyword)
  | some rule =>
      obtain ⟨happlies, before, after, hsplit, hfirst⟩ := List.find?_eq_some_iff_append.1 hrule
      refine .rule hsplit (mentions_iff.1 happlies) fun earlier hmem hkeyword => ?_
      have hnot := hfirst earlier hmem
      rw [mentions_iff.2 hkeyword] at hnot
      cases hnot

namespace ByKeywords

variable {model : String} {c : Category}

theorem eq_effect_iff (h : ByKeywords model c) :
    c = .effect ↔ ∀ rule ∈ keywordRules, ¬ HasKeyword model rule.1 := by
  have hnames : ∀ rule ∈ keywordRules, rule.2 ≠ .effect := by decide
  cases h with
  | effect hnone => exact iff_of_true rfl hnone
  | @rule before after rule hsplit happlies _ =>
      have hmem : rule ∈ keywordRules := hsplit ▸ List.mem_append_right before List.mem_cons_self
      exact iff_of_false (hnames rule hmem) fun hnone => hnone rule hmem happlies

theorem mem_byPriority (h : ByKeywords model c) : c ∈ byPriority := by
  rw [← categories_keywordRules]
  cases h with
  | effect _ => exact List.mem_append_right _ (List.mem_singleton_self _)
  | @rule before after rule hsplit _ _ =>
      have hmem : rule ∈ keywordRules := hsplit ▸ List.mem_append_right before List.mem_cons_self
      exact List.mem_append_left _ (List.mem_map_of_mem hmem)

end ByKeywords

/-- The name is looked at for the keywords of the rules only. -/
theorem ofName_congr {model model' : String}
    (h : ∀ rule ∈ keywordRules, HasKeyword model rule.1 ↔ HasKeyword model' rule.1) :
    ofName (lowercase model.toList) = ofName (lowercase model'.toList) := by
  have hfind : keywordRules.find? (fun rule => mentions (lowercase model.toList) rule.1) =
      keywordRules.find? (fun rule => mentions (lowercase model'.toList) rule.1) :=
    List.find?_congr fun rule hrule =>
      Bool.eq_iff_iff.2 (mentions_iff.trans ((h rule hrule).trans mentions_iff.symm))
  unfold ofName
  rw [hfind]

/-! ## Longer names -/

/-- The category of the first rule that satisfies a test, or effect without one. -/
def firstOf (rules : List (List String × Category)) (p : List String × Category → Bool) :
    Category :=
  match rules.find? p with
  | none => .effect
  | some rule => rule.2

theorem firstOf_cons_of_pos {p : List String × Category → Bool} {rule : List String × Category}
    (h : p rule = true) (rules : List (List String × Category)) :
    firstOf (rule :: rules) p = rule.2 := by
  rw [firstOf, List.find?_cons_of_pos h]

theorem firstOf_cons_of_neg {p : List String × Category → Bool} {rule : List String × Category}
    (h : ¬ p rule = true) (rules : List (List String × Category)) :
    firstOf (rule :: rules) p = firstOf rules p := by
  rw [firstOf, List.find?_cons_of_neg h, firstOf]

theorem firstOf_mem (rules : List (List String × Category))
    (p : List String × Category → Bool) : firstOf rules p ∈ rules.map (·.2) ++ [.effect] := by
  induction rules with
  | nil => exact List.mem_singleton_self _
  | cons rule rules ih =>
      by_cases h : p rule = true
      · rw [firstOf_cons_of_pos h]
        exact List.mem_cons_self
      · rw [firstOf_cons_of_neg h]
        exact List.mem_cons_of_mem _ ih

/-- A test that holds of more rules is satisfied by the same one first, or by an earlier one. -/
theorem firstOf_mono {p q : List String × Category → Bool} {rules : List (List String × Category)}
    (h : ∀ rule ∈ rules, p rule = true → q rule = true) :
    firstOf rules q = firstOf rules p ∨
      [firstOf rules q, firstOf rules p].Sublist (rules.map (·.2) ++ [.effect]) := by
  induction rules with
  | nil => exact Or.inl rfl
  | cons rule rules ih =>
      obtain ⟨hrule, hrules⟩ := List.forall_mem_cons.1 h
      by_cases hq : q rule = true
      · rw [firstOf_cons_of_pos hq]
        by_cases hp : p rule = true
        · exact Or.inl (firstOf_cons_of_pos hp rules).symm
        · rw [firstOf_cons_of_neg hp]
          exact Or.inr ((List.singleton_sublist.2 (firstOf_mem rules p)).cons_cons rule.2)
      · rw [firstOf_cons_of_neg hq, firstOf_cons_of_neg fun hp => hq (hrule hp)]
        exact (ih hrules).imp_right fun hsublist => hsublist.cons rule.2

theorem hasNoSigma_of_mem :
    ∀ rule ∈ keywordRules, ∀ keyword ∈ rule.1, HasNoSigma keyword.toList := by
  decide

theorem HasKeyword.mono {model model' : String} {rule : List String × Category}
    (hrule : rule ∈ keywordRules) (hmodel : model.toList <:+: model'.toList)
    (h : HasKeyword model rule.1) : HasKeyword model' rule.1 := by
  obtain ⟨keyword, hmem, hkeyword⟩ := h
  exact ⟨keyword, hmem,
    infix_lowercase_of_infix (hasNoSigma_of_mem rule hrule keyword hmem) hmodel hkeyword⟩

/-- A name with a piece is classified by the rule of the piece or by an earlier one. -/
theorem notLater_ofName_of_infix {model model' : String} (h : model.toList <:+: model'.toList) :
    NotLater (ofName (lowercase model'.toList)) (ofName (lowercase model.toList)) := by
  refine firstOf_mono fun rule hrule hmentions => ?_
  exact mentions_iff.2 ((mentions_iff.1 hmentions).mono hrule h)

/-! ## Type codes -/

/-- Whether the type code leaves the category to the name. -/
def GoesByName (typeCode : Int32) : Prop :=
  ¬ (1 ≤ typeCode ∧ typeCode ≤ 3) ∧ typeCode ≠ 4

instance (typeCode : Int32) : Decidable (GoesByName typeCode) :=
  inferInstanceAs (Decidable (_ ∧ _))

/-- How the category of a block on a path comes from its type code and its model. -/
structure IsClassified (block : Block) (c : Category) : Prop where
  amp_iff : c = .amp ↔ 1 ≤ block.typeCode ∧ block.typeCode ≤ 3
  cab : block.typeCode = 4 → c = .cab
  byKeywords : GoesByName block.typeCode → ByKeywords block.model c
  effect_iff : GoesByName block.typeCode →
    (c = .effect ↔ ∀ rule ∈ keywordRules, ¬ HasKeyword block.model rule.1)
  ne_instrument : c ≠ .instrument

theorem typeCode_cases (typeCode : Int32) :
    (1 ≤ typeCode ∧ typeCode ≤ 3) ∨ typeCode = 4 ∨ GoesByName typeCode := by
  by_cases hamp : 1 ≤ typeCode ∧ typeCode ≤ 3
  · exact Or.inl hamp
  · by_cases hcab : typeCode = 4
    · exact Or.inr (Or.inl hcab)
    · exact Or.inr (Or.inr ⟨hamp, hcab⟩)

theorem ofModel_of_amp {typeCode : Int32} (h : 1 ≤ typeCode ∧ typeCode ≤ 3) (model : String) :
    ofModel model typeCode = .amp := by
  have hamp : (decide (1 ≤ typeCode) && decide (typeCode ≤ 3)) = true := by
    simpa only [Bool.and_eq_true, decide_eq_true_eq] using h
  rw [ofModel, if_pos hamp]

theorem ofModel_cab (model : String) : ofModel model 4 = .cab :=
  rfl

theorem ofModel_of_goesByName {typeCode : Int32} (h : GoesByName typeCode) (model : String) :
    ofModel model typeCode = ofName (lowercase model.toList) := by
  have hamp : ¬ (decide (1 ≤ typeCode) && decide (typeCode ≤ 3)) = true := by
    simpa only [Bool.and_eq_true, decide_eq_true_eq] using h.1
  rw [ofModel, if_neg hamp, if_neg h.2]

theorem byKeywords_ofModel {typeCode : Int32} (h : GoesByName typeCode) (model : String) :
    ByKeywords model (ofModel model typeCode) := by
  rw [ofModel_of_goesByName h]
  exact byKeywords_ofName model

theorem ofModel_eq_amp_iff {model : String} {typeCode : Int32} :
    ofModel model typeCode = .amp ↔ 1 ≤ typeCode ∧ typeCode ≤ 3 := by
  refine ⟨fun hname => ?_, fun h => ofModel_of_amp h model⟩
  rcases typeCode_cases typeCode with hamp | rfl | hother
  · exact hamp
  · cases hname
  · exact absurd (hname ▸ (byKeywords_ofModel hother model).mem_byPriority) (by simp [byPriority])

theorem ofModel_ne_instrument (model : String) (typeCode : Int32) :
    ofModel model typeCode ≠ .instrument := by
  intro hname
  rcases typeCode_cases typeCode with hamp | rfl | hother
  · rw [ofModel_of_amp hamp] at hname
    cases hname
  · cases hname
  · exact absurd (hname ▸ (byKeywords_ofModel hother model).mem_byPriority) (by simp [byPriority])

theorem isClassified_ofModel (block : Block) :
    IsClassified block (ofModel block.model block.typeCode) where
  amp_iff := ofModel_eq_amp_iff
  cab h := by rw [h, ofModel_cab]
  byKeywords h := byKeywords_ofModel h block.model
  effect_iff h := (byKeywords_ofModel h block.model).eq_effect_iff
  ne_instrument := ofModel_ne_instrument block.model block.typeCode

end Category

/-! ## Blocks on a path -/

namespace ChainBlock

open Text Category

theorem category_eq_instrument_iff {stage : ChainBlock} :
    stage.category = .instrument ↔ stage.id = .instrument := by
  obtain ⟨id, block⟩ := stage
  cases id with
  | instrument => simp [category, BlockId.isInstrument]
  | onPath path key =>
      simp [category, BlockId.isInstrument, Category.ofModel_ne_instrument]

theorem category_of_ne_instrument {stage : ChainBlock} (h : stage.id ≠ .instrument) :
    stage.category = ofModel stage.block.model stage.block.typeCode := by
  obtain ⟨id, block⟩ := stage
  cases id with
  | instrument => exact absurd rfl h
  | onPath path key => rfl

/--
A block on a path is classified by its type code, or else by the first rule of
which a keyword occurs in its model.  The case of ASCII letters in the model
does not matter, and a model that holds it as a piece goes by the same rule or
an earlier one.
-/
theorem category_by_keywords :
    keywordRules.map (·.2) ++ [.effect] =
        [.cab, .distortion, .delay, .reverb, .dynamics, .modulation, .effect] ∧
      ∀ stage : ChainBlock, stage.id ≠ .instrument →
        IsClassified stage.block stage.category ∧
        ∀ other : ChainBlock, other.id ≠ .instrument →
          other.block.typeCode = stage.block.typeCode →
          (lowercaseAscii other.block.model.toList = lowercaseAscii stage.block.model.toList →
            other.category = stage.category) ∧
          (GoesByName stage.block.typeCode →
            stage.block.model.toList <:+: other.block.model.toList →
            NotLater other.category stage.category) := by
  refine ⟨rfl, fun stage h => ?_⟩
  rw [category_of_ne_instrument h]
  refine ⟨isClassified_ofModel stage.block, fun other hother htype => ?_⟩
  rw [category_of_ne_instrument hother, htype]
  constructor
  · intro hspelling
    unfold ofModel
    rw [lowercase_eq_of_lowercaseAscii_eq hspelling]
  · intro hname hpiece
    rw [ofModel_of_goesByName hname, ofModel_of_goesByName hname]
    exact notLater_ofName_of_infix hpiece

/-- A stored block of a model that has no type code. -/
def untyped (model : String) : ChainBlock :=
  ⟨.onPath .path0 "block0", Block.ofModel model⟩

theorem category_by_keywords_delay :
    (untyped "hd2_delayCOMPULSIVE").category = (untyped "HD2_DelayCompulsive").category ∧
      (untyped "HD2_DelayCompulsive").category = .delay ∧
      NotLater (untyped "HD2_DelayCompulsiveMicIR").category
        (untyped "HD2_DelayCompulsive").category ∧
      (untyped "HD2_DelayCompulsiveMicIR").category = .cab := by
  have honPath : ∀ model, (untyped model).id ≠ .instrument := fun _ => BlockId.noConfusion
  obtain ⟨-, hall⟩ := category_by_keywords
  obtain ⟨-, hothers⟩ := hall (untyped "HD2_DelayCompulsive") (honPath _)
  have hspelled := (hothers (untyped "hd2_delayCOMPULSIVE") (honPath _) rfl).1
  have hlonger := (hothers (untyped "HD2_DelayCompulsiveMicIR") (honPath _) rfl).2
  have hpiece : "HD2_DelayCompulsive".toList <:+: "HD2_DelayCompulsiveMicIR".toList :=
    ⟨[], "MicIR".toList, by decide⟩
  exact ⟨hspelled (by decide), by decide +kernel, hlonger (by decide) hpiece, by decide +kernel⟩

/-- The Kelvin sign is a capital of the letter k. -/
example : (untyped "\u212AINKYBoost").category = .distortion := by
  decide +kernel

end ChainBlock

end SignalChain
