import SignalChain.Document.Json.Reader
import SignalChain.Proofs.Document.Json.Numeral
import SignalChain.Proofs.Document.Payload

/-!
# What a value is after JSON

Every text that the writer makes is read again, whatever the value.  What comes
out is the value with its doubles as the reader takes their digits, with null for
a double that has none, and with what is nested too deeply made unusable.
-/

namespace SignalChain

namespace Document

namespace Json

open Decimal

/-! ## Texts -/

theorem hexNumber?_zeroPadded {n : Nat} (h : n < 0x20) :
    ∃ a b c d, Text.zeroPadded 4 (Text.lowerHex n) = [a, b, c, d] ∧
      Text.hexNumber? [a, b, c, d] = some n := by
  have hall : ∀ n < 0x20, (Text.zeroPadded 4 (Text.lowerHex n)).length = 4 ∧
      Text.hexNumber? (Text.zeroPadded 4 (Text.lowerHex n)) = some n := by decide
  obtain ⟨hlength, hnumber⟩ := hall n h
  match htext : Text.zeroPadded 4 (Text.lowerHex n) with
  | [a, b, c, d] =>
      rw [htext] at hnumber
      exact ⟨a, b, c, d, rfl, hnumber⟩
  | [] | [_] | [_, _] | [_, _, _] | _ :: _ :: _ :: _ :: _ :: _ => simp [htext] at hlength

theorem readCodes_escape {c : Char} (hc : c ≠ 'u') (rest : List Char) :
    readCodes ('\\' :: c :: rest) =
      (letterEscape? c).bind (fun letter =>
        (readCodes rest).map (fun read => (letter.toNat :: read.1, read.2))) := by
  rw [readCodes]
  · cases letterEscape? c with
    | none => rfl
    | some letter => cases readCodes rest <;> rfl
  · intro p q r s tail hu
    exact absurd hu hc

theorem readCodes_plain {c : Char} (hquote : c ≠ '"') (hslash : c ≠ '\\')
    (hcontrol : ¬ c.toNat < 0x20) (rest : List Char) :
    readCodes (c :: rest) = (readCodes rest).map (fun read => (c.toNat :: read.1, read.2)) := by
  rw [readCodes, if_neg hcontrol]
  · cases readCodes rest <;> rfl
  all_goals simp_all

theorem readCodes_quotedChar (c : Char) (rest : List Char) :
    readCodes (quotedChar c ++ rest) =
      (readCodes rest).map (fun read => (c.toNat :: read.1, read.2)) := by
  unfold quotedChar
  split
  case h_8 hquote hslash _ _ _ _ _ =>
    by_cases hcontrol : c.toNat < 0x20
    · obtain ⟨p, q, r, s, htext, hnumber⟩ := hexNumber?_zeroPadded hcontrol
      rw [if_pos hcontrol, htext]
      simp only [List.cons_append, List.nil_append, readCodes, hnumber]
      cases readCodes rest <;> rfl
    · rw [if_neg hcontrol]
      exact readCodes_plain hquote hslash hcontrol rest
  all_goals exact readCodes_escape (by decide) rest

theorem readCodes_flatMap (cs rest : List Char) :
    readCodes (cs.flatMap quotedChar ++ '"' :: rest) = some (cs.map Char.toNat, rest) := by
  induction cs with
  | nil => rfl
  | cons c cs ih =>
      rw [List.flatMap_cons, List.append_assoc, readCodes_quotedChar, ih]
      rfl

/-- No character is half of a surrogate pair. -/
theorem isSurrogate_toNat (c : Char) :
    isHighSurrogate c.toNat = false ∧ isLowSurrogate c.toNat = false := by
  have hvalid : c.toNat < 0xD800 ∨ 0xDFFF < c.toNat ∧ c.toNat < 0x110000 := c.valid
  simp only [isHighSurrogate, isLowSurrogate, Bool.and_eq_false_iff, decide_eq_false_iff_not]
  omega

theorem joinSurrogates_map (cs : List Char) : joinSurrogates (cs.map Char.toNat) = some cs := by
  induction cs with
  | nil => rfl
  | cons c cs ih =>
      obtain ⟨hhigh, hlow⟩ := isSurrogate_toNat c
      cases cs with
      | nil => simp [joinSurrogates, hhigh, hlow, Char.ofNat_toNat]
      | cons d ds =>
          simp only [List.map_cons] at ih ⊢
          simp [joinSurrogates, hhigh, hlow, Char.ofNat_toNat, ih]

/-- A text in quotes is read as the text. -/
theorem readText_quoted (s : String) (rest : List Char) :
    ∃ cs, (quoted s).toList = '"' :: cs ∧ readText (cs ++ rest) = some (some s, rest) := by
  refine ⟨s.toList.flatMap quotedChar ++ ['"'], by simp [quoted], ?_⟩
  unfold readText
  rw [List.append_assoc, List.singleton_append, readCodes_flatMap]
  simp [joinSurrogates_map]

/-! ## Numbers -/

/-- What the text of a number is read as. -/
def rereadNumber (cs : List Char) : Value :=
  match readNumeral cs with
  | some (n, []) => n.toValue
  | _ => .unusable

theorem endsNumber_nil : EndsNumber [] where
  digit := nofun
  point := nofun
  lower := nofun
  upper := nofun

theorem rereadNumber_of_isNumeral {cs : List Char} {n : Numeral} (h : IsNumeral cs n) :
    rereadNumber cs = n.toValue := by
  have hread := h [] endsNumber_nil
  rw [List.append_nil] at hread
  unfold rereadNumber
  rw [hread]

theorem rereadNumber_intText {n : Int} (h : isInteger64 n = true) :
    rereadNumber (intText n) = .int n := by
  rw [rereadNumber_of_isNumeral (isNumeral_intText n), toValue_intText h]

/-- A finite double is read as a double, unless its digits are beyond their range. -/
theorem rereadNumber_float {x : Float} (h : x.isFinite = true) :
    rereadNumber (floatLayout.write x) = .unusable ∨
      ∃ y, rereadNumber (floatLayout.write x) = .float y := by
  obtain ⟨n, hparts, hnumeral⟩ := isNumeral_float h
  rw [rereadNumber_of_isNumeral hnumeral]
  exact toValue_of_float hparts

/-! ## Values -/

mutual

/-- What the text of a value is read as, with so many lists and objects around it. -/
def reread (level : Nat) : Value → Value
  | .int n => rereadNumber (intText n)
  | .float x => if x.isFinite then rereadNumber (floatLayout.write x) else .null
  | .list items => nested level (.list (rereadItems (level + 1) items))
  | .object fields => nested level (.object (rereadFields (level + 1) fields))
  | .unusable => .null
  | v => v

def rereadItems (level : Nat) : List Value → List Value
  | [] => []
  | item :: items => reread level item :: rereadItems level items

def rereadFields (level : Nat) : List (String × Value) → List (String × Value)
  | [] => []
  | (name, value) :: fields => (name, reread level value) :: rereadFields level fields

end

theorem rereadItems_eq_map (level : Nat) (items : List Value) :
    rereadItems level items = items.map (reread level) := by
  induction items with
  | nil => rfl
  | cons item items ih => rw [rereadItems, ih, List.map_cons]

theorem rereadFields_eq_map (level : Nat) (fields : List (String × Value)) :
    rereadFields level fields = fields.map (fun field => (field.1, reread level field.2)) := by
  induction fields with
  | nil => rfl
  | cons field fields ih => rw [rereadFields, ih, List.map_cons]

/-! ## White space -/

theorem skipBlank_of_head {cs : List Char} {c : Char} {rest : List Char} (hcs : cs = c :: rest)
    (hblank : (c == ' ' || c == '\t' || c == '\n' || c == '\r') = false) : skipBlank cs = cs := by
  rw [hcs]
  exact List.dropWhile_cons_of_neg (by simp [hblank])

theorem skipBlank_lineBreak (level : Nat) (cs : List Char) :
    skipBlank ((lineBreak level).toList ++ cs) = skipBlank cs := by
  have hblanks : ∀ count, skipBlank (List.replicate count ' ' ++ cs) = skipBlank cs := by
    intro count
    induction count with
    | zero => rfl
    | succ count ih =>
        rw [List.replicate_succ, List.cons_append]
        exact ih
  unfold lineBreak
  rw [String.toList_ofList, List.cons_append]
  exact hblanks (2 * level)

theorem readValue_congr {cs ds : List Char} (h : skipBlank cs = skipBlank ds)
    (fuel level : Nat) : readValue fuel level cs = readValue fuel level ds := by
  cases fuel with
  | zero => simp only [readValue]
  | succ fuel => simp only [readValue, h]

theorem readItems_congr {cs ds : List Char} (h : skipBlank cs = skipBlank ds)
    (fuel level : Nat) : readItems fuel level cs = readItems fuel level ds := by
  cases fuel with
  | zero => simp only [readItems]
  | succ fuel => simp only [readItems, readValue_congr h]

theorem readFields_congr {cs ds : List Char} (h : skipBlank cs = skipBlank ds)
    (fuel level : Nat) : readFields fuel level cs = readFields fuel level ds := by
  cases fuel with
  | zero => simp only [readFields]
  | succ fuel => simp only [readFields, h]

theorem endsNumber_comma (cs : List Char) : EndsNumber (',' :: cs) where
  digit := by
    intro c hc
    cases hc
    rfl
  point := by simp
  lower := by simp
  upper := by simp

theorem endsNumber_lineBreak (level : Nat) (cs : List Char) :
    EndsNumber ((lineBreak level).toList ++ cs) where
  digit := by
    intro c hc
    have hbreak : c = '\n' := by simpa [lineBreak, eq_comm] using hc
    rw [hbreak]
    rfl
  point := by simp [lineBreak]
  lower := by simp [lineBreak]
  upper := by simp [lineBreak]

/-! ## Scalars -/

/-- The text of a value is read, with enough fuel and up to its end. -/
def ReadsBack (v : Value) : Prop :=
  ∀ (indent level fuel : Nat) (rest : List Char), (pretty indent v).length ≤ fuel →
    EndsNumber rest →
      readValue fuel level ((pretty indent v).toList ++ rest) = some (reread level v, rest)

theorem head_of_readNumeral {cs rest : List Char} {n : Numeral}
    (h : readNumeral cs = some (n, rest)) :
    ∃ c tail, cs = c :: tail ∧ (c = '-' ∨ c.isDigit = true) := by
  cases cs with
  | nil => cases h
  | cons c tail =>
      refine ⟨c, tail, rfl, ?_⟩
      by_contra hneither
      obtain ⟨hsign, hdigit⟩ := not_or.1 hneither
      simp [readNumeral, readWhole, readDigits, hsign, hdigit] at h

theorem readValue_of_readNumeral {cs rest : List Char} {n : Numeral}
    (h : readNumeral cs = some (n, rest)) (fuel level : Nat) :
    readValue (fuel + 1) level cs = some (n.toValue, rest) := by
  obtain ⟨c, tail, rfl, hc⟩ := head_of_readNumeral h
  have hother : ∀ d : Char, d.isDigit = false → d ≠ '-' → c ≠ d := by
    intro d hdigit hsign heq
    subst heq
    simp [hdigit, hsign] at hc
  have hblank : skipBlank (c :: tail) = c :: tail := by
    refine skipBlank_of_head rfl ?_
    simp [hother]
  have hscalar : readScalar (c :: tail) = some (n.toValue, rest) := by
    unfold readScalar
    split
    · next heq => exact absurd (List.head_eq_of_cons_eq heq) (hother 'n' rfl (by decide))
    · next heq => exact absurd (List.head_eq_of_cons_eq heq) (hother 't' rfl (by decide))
    · next heq => exact absurd (List.head_eq_of_cons_eq heq) (hother 'f' rfl (by decide))
    · rw [h, Option.map_some]
  simp only [readValue, hblank]
  split
  · next heq => exact absurd (List.head_eq_of_cons_eq heq) (hother '"' rfl (by decide))
  · next heq => exact absurd (List.head_eq_of_cons_eq heq) (hother '[' rfl (by decide))
  · next heq => exact absurd (List.head_eq_of_cons_eq heq) (hother '\x7b' rfl (by decide))
  · exact hscalar

theorem readsBack_number {v : Value} {cs : List Char} {n : Numeral}
    (htext : ∀ indent, pretty indent v = String.ofList cs)
    (hvalue : ∀ level, reread level v = n.toValue) (h : IsNumeral cs n) : ReadsBack v := by
  intro indent level fuel rest hfuel hrest
  have hread := h rest hrest
  rw [htext] at hfuel ⊢
  rw [hvalue, String.toList_ofList]
  cases fuel with
  | zero =>
      have hnil : cs = [] := by simpa using hfuel
      rw [hnil] at h
      cases h [] endsNumber_nil
  | succ fuel => exact readValue_of_readNumeral hread fuel level

theorem readsBack_int (n : Int) : ReadsBack (.int n) := by
  refine readsBack_number (fun indent => ?_) (fun level => ?_) (isNumeral_intText n)
  · simp only [pretty, scalarText]
  · rw [reread, rereadNumber_of_isNumeral (isNumeral_intText n)]

/-- A value that is written as null. -/
theorem readsBack_null {v : Value} (htext : ∀ indent, pretty indent v = "null")
    (hvalue : ∀ level, reread level v = .null) : ReadsBack v := by
  intro indent level fuel rest hfuel _
  rw [htext] at hfuel ⊢
  rw [hvalue]
  cases fuel with
  | zero => simp at hfuel
  | succ fuel => simp [readValue, skipBlank, readScalar]

theorem readsBack_float (x : Float) : ReadsBack (.float x) := by
  by_cases hx : x.isFinite = true
  · obtain ⟨n, -, hnumeral⟩ := isNumeral_float hx
    refine readsBack_number (fun indent => ?_) (fun level => ?_) hnumeral
    · simp only [pretty, scalarText, floatText, if_pos hx]
    · rw [reread, if_pos hx, rereadNumber_of_isNumeral hnumeral]
  · refine readsBack_null (fun indent => ?_) (fun level => ?_)
    · simp only [pretty, scalarText, floatText, if_neg hx]
    · rw [reread, if_neg hx]

theorem readsBack_bool (b : Bool) : ReadsBack (.bool b) := by
  intro indent level fuel rest hfuel _
  cases fuel with
  | zero => cases b <;> simp [pretty, scalarText] at hfuel
  | succ fuel =>
      cases b <;> simp [pretty, scalarText, reread, readValue, skipBlank, readScalar]

theorem readsBack_text (s : String) : ReadsBack (.text s) := by
  intro indent level fuel rest hfuel _
  obtain ⟨cs, hcs, hread⟩ := readText_quoted s rest
  have htext : (pretty indent (.text s)).toList = '"' :: cs := by
    simp only [pretty, scalarText, hcs]
  cases fuel with
  | zero => simp [← String.length_toList, htext] at hfuel
  | succ fuel =>
      have hblank : skipBlank ('"' :: (cs ++ rest)) = '"' :: (cs ++ rest) :=
        skipBlank_of_head rfl rfl
      rw [htext, List.cons_append]
      simp only [readValue, hblank, hread]
      simp [reread]

/-! ## Lists and objects -/

theorem skipBlank_cons {c : Char} (h : c ∉ [' ', '\t', '\n', '\r']) (cs : List Char) :
    skipBlank (c :: cs) = c :: cs := by
  refine skipBlank_of_head rfl ?_
  simpa [and_assoc] using h

/-- The elements after the first are read one by one, up to the end of the list. -/
theorem readItems_pretty {items : List Value} (hitems : ∀ v ∈ items, ReadsBack v)
    {first : Value} (hfirst : ReadsBack first) {indent level fuel : Nat}
    {tail rest : List Char} (htail : EndsNumber tail) (hend : skipBlank tail = ']' :: rest)
    (hfuel : (pretty (indent + 1) first).length + (prettyItems indent items).length < fuel) :
    readItems fuel level ((pretty (indent + 1) first).toList ++
        ((prettyItems indent items).toList ++ tail)) =
      some (reread level first :: rereadItems level items, rest) := by
  induction items generalizing first fuel with
  | nil =>
      cases fuel with
      | zero => omega
      | succ fuel =>
          have hread := hfirst (indent + 1) level fuel tail (by omega) htail
          simp only [prettyItems, String.toList_empty, List.nil_append, readItems, hread]
          simp [hend, rereadItems]
  | cons second items ih =>
      obtain ⟨hsecond, hitems⟩ := List.forall_mem_cons.1 hitems
      cases fuel with
      | zero => omega
      | succ fuel =>
          have hcomma : ",".length = 1 := rfl
          simp only [prettyItems, String.length_append, hcomma] at hfuel
          let next := (pretty (indent + 1) second).toList ++
            ((prettyItems indent items).toList ++ tail)
          have htext : (prettyItems indent (second :: items)).toList ++ tail =
              ',' :: ((lineBreak (indent + 1)).toList ++ next) := by
            simp [prettyItems, next]
          have hread := hfirst (indent + 1) level fuel
            (',' :: ((lineBreak (indent + 1)).toList ++ next)) (by omega) (endsNumber_comma _)
          have hnext : readItems fuel level next =
              some (reread level second :: rereadItems level items, rest) :=
            ih hitems hsecond (by omega)
          rw [htext]
          simp only [readItems, hread, Option.bind_eq_bind, Option.bind_some,
            skipBlank_cons (c := ',') (by decide),
            readItems_congr (skipBlank_lineBreak (indent + 1) next), hnext]
          rfl

/-- The fields from one on, of which only the text behind it is left to read. -/
def fieldsFrom (fuel level : Nat) (field : Option String × Value) :
    List Char → Option (List (Option String × Value) × List Char)
  | ',' :: rest =>
      (readFields fuel level rest).bind (fun (fields, rest) => some (field :: fields, rest))
  | '\x7d' :: rest => some ([field], rest)
  | _ => none

/-- A field is read from its name on. -/
theorem readFields_name {name : String} {cs after : List Char} {fuel level : Nat}
    {value : Value} (hvalue : readValue fuel level cs = some (value, after)) :
    readFields (fuel + 1) level ((quoted name).toList ++ (':' :: ' ' :: cs)) =
      fieldsFrom fuel level (some name, value) (skipBlank after) := by
  obtain ⟨text, htext, hread⟩ := readText_quoted name (':' :: ' ' :: cs)
  have hblank : skipBlank (' ' :: cs) = skipBlank cs := rfl
  rw [htext, List.cons_append]
  simp only [readFields, skipBlank_cons (c := '"') (by decide), hread,
    skipBlank_cons (c := ':') (by decide), Option.bind_eq_bind, Option.bind_some,
    readValue_congr hblank, hvalue]
  rfl

/-- The names of fields that were written are usable. -/
def namedFields (fields : List (String × Value)) : List (Option String × Value) :=
  fields.map (fun field => (some field.1, field.2))

theorem objectOf_namedFields (fields : List (String × Value)) :
    objectOf (namedFields fields) = .object fields := by
  have hnames : (namedFields fields).mapM
      (fun field => field.1.map (fun name => (name, field.2))) = some fields := by
    rw [mapM_eq_some_iff, namedFields, List.forall₂_map_left_iff, List.forall₂_same]
    exact fun field _ => rfl
  unfold objectOf
  rw [hnames]

theorem readFields_pretty {fields : List (String × Value)}
    (hfields : ∀ field ∈ fields, ReadsBack field.2) {name : String} {value : Value}
    (hvalue : ReadsBack value) {indent level fuel : Nat} {tail rest : List Char}
    (htail : EndsNumber tail) (hend : skipBlank tail = '\x7d' :: rest)
    (hfuel : (pretty (indent + 1) value).length + (prettyFields indent fields).length < fuel) :
    readFields fuel level ((quoted name).toList ++ (':' :: ' ' ::
        ((pretty (indent + 1) value).toList ++ ((prettyFields indent fields).toList ++ tail)))) =
      some (namedFields ((name, reread level value) :: rereadFields level fields), rest) := by
  induction fields generalizing name value fuel with
  | nil =>
      cases fuel with
      | zero => omega
      | succ fuel =>
          have hread := hvalue (indent + 1) level fuel tail (by omega) htail
          simp only [prettyFields, String.toList_empty, List.nil_append, readFields_name hread,
            hend]
          rfl
  | cons field fields ih =>
      obtain ⟨other, second⟩ := field
      obtain ⟨hfield, hfields⟩ := List.forall_mem_cons.1 hfields
      have hsecond : ReadsBack second := hfield
      cases fuel with
      | zero => omega
      | succ fuel =>
          have hcomma : ",".length = 1 := rfl
          simp only [prettyFields, String.length_append, hcomma] at hfuel
          let next := (quoted other).toList ++ (':' :: ' ' ::
            ((pretty (indent + 1) second).toList ++ ((prettyFields indent fields).toList ++ tail)))
          have htext : (prettyFields indent ((other, second) :: fields)).toList ++ tail =
              ',' :: ((lineBreak (indent + 1)).toList ++ next) := by
            simp [prettyFields, next]
          have hread := hvalue (indent + 1) level fuel
            (',' :: ((lineBreak (indent + 1)).toList ++ next)) (by omega) (endsNumber_comma _)
          have hnext : readFields fuel level next =
              some (namedFields ((other, reread level second) :: rereadFields level fields),
                rest) :=
            ih hfields hsecond (by omega)
          rw [htext]
          simp only [readFields_name hread, skipBlank_cons (c := ',') (by decide), fieldsFrom,
            readFields_congr (skipBlank_lineBreak (indent + 1) next), hnext, Option.bind_some]
          rfl

theorem skipBlank_skipBlank (cs : List Char) : skipBlank (skipBlank cs) = skipBlank cs := by
  unfold skipBlank
  induction cs with
  | nil => rfl
  | cons c cs ih =>
      rw [List.dropWhile_cons]
      split
      · exact ih
      · next hblank => rw [List.dropWhile_cons, if_neg hblank]

/-- No element begins with the end of a list. -/
theorem skipBlank_ne_of_readItems {fuel level : Nat} {cs : List Char}
    {read : List Value × List Char} (h : readItems fuel level cs = some read)
    (after : List Char) : skipBlank cs ≠ ']' :: after := by
  intro hclosing
  have hvalue : ∀ fuel, readValue fuel level cs = none := by
    intro fuel
    cases fuel with
    | zero => simp [readValue]
    | succ fuel => simp [readValue, hclosing, readScalar, readNumeral, readWhole, readDigits]
  cases fuel with
  | zero => simp [readItems] at h
  | succ fuel => simp [readItems, hvalue] at h

theorem readsBack_list {items : List Value} (h : ∀ v ∈ items, ReadsBack v) :
    ReadsBack (.list items) := by
  intro indent level fuel rest hfuel _
  cases items with
  | nil =>
      cases fuel with
      | zero => simp [pretty, scalarText] at hfuel
      | succ fuel =>
          have htext : (pretty indent (.list [])).toList ++ rest = '[' :: ']' :: rest := by
            simp [pretty, scalarText]
          rw [htext]
          simp only [readValue, skipBlank_cons (c := '[') (by decide),
            skipBlank_cons (c := ']') (by decide)]
          simp only [reread, rereadItems]
  | cons first items =>
      obtain ⟨hfirst, hitems⟩ := List.forall_mem_cons.1 h
      let tail := (lineBreak indent).toList ++ ']' :: rest
      let body := (pretty (indent + 1) first).toList ++ ((prettyItems indent items).toList ++ tail)
      have htext : (pretty indent (.list (first :: items))).toList ++ rest =
          '[' :: ((lineBreak (indent + 1)).toList ++ body) := by
        simp [pretty, body, tail]
      have hlength : (pretty indent (.list (first :: items))).length =
          1 + (lineBreak (indent + 1)).length + (pretty (indent + 1) first).length +
            (prettyItems indent items).length + (lineBreak indent).length + 1 := by
        simp only [pretty, String.length_append]
        rfl
      cases fuel with
      | zero => omega
      | succ fuel =>
          have htail : EndsNumber tail := endsNumber_lineBreak _ _
          have hend : skipBlank tail = ']' :: rest := by
            rw [skipBlank_lineBreak, skipBlank_cons (by decide)]
          have hread : readItems fuel (level + 1) body =
              some (reread (level + 1) first :: rereadItems (level + 1) items, rest) :=
            readItems_pretty hitems hfirst htail hend (by omega)
          rw [htext]
          simp only [readValue, skipBlank_cons (c := '[') (by decide), skipBlank_lineBreak]
          split
          · next after hclosing =>
              exact absurd hclosing (skipBlank_ne_of_readItems hread after)
          · simp only [readItems_congr (skipBlank_skipBlank body), hread]
            rfl

theorem readsBack_object {fields : List (String × Value)}
    (h : ∀ field ∈ fields, ReadsBack field.2) : ReadsBack (.object fields) := by
  intro indent level fuel rest hfuel _
  cases fields with
  | nil =>
      cases fuel with
      | zero => simp [pretty, scalarText] at hfuel
      | succ fuel =>
          have htext : (pretty indent (.object [])).toList ++ rest = '\x7b' :: '\x7d' :: rest := by
            simp [pretty, scalarText]
          rw [htext]
          simp only [readValue, skipBlank_cons (c := '\x7b') (by decide),
            skipBlank_cons (c := '\x7d') (by decide)]
          simp only [reread, rereadFields]
  | cons field fields =>
      obtain ⟨name, value⟩ := field
      obtain ⟨hfield, hfields⟩ := List.forall_mem_cons.1 h
      have hvalue : ReadsBack value := hfield
      let tail := (lineBreak indent).toList ++ '\x7d' :: rest
      let body := (quoted name).toList ++ (':' :: ' ' ::
        ((pretty (indent + 1) value).toList ++ ((prettyFields indent fields).toList ++ tail)))
      have htext : (pretty indent (.object ((name, value) :: fields))).toList ++ rest =
          '\x7b' :: ((lineBreak (indent + 1)).toList ++ body) := by
        simp [pretty, body, tail]
      have hlength : (pretty indent (.object ((name, value) :: fields))).length =
          1 + (lineBreak (indent + 1)).length + (quoted name).length + 2 +
            (pretty (indent + 1) value).length + (prettyFields indent fields).length +
              (lineBreak indent).length + 1 := by
        simp only [pretty, String.length_append]
        rfl
      cases fuel with
      | zero => omega
      | succ fuel =>
          have htail : EndsNumber tail := endsNumber_lineBreak _ _
          have hend : skipBlank tail = '\x7d' :: rest := by
            rw [skipBlank_lineBreak, skipBlank_cons (by decide)]
          have hread : readFields fuel (level + 1) body =
              some (namedFields ((name, reread (level + 1) value) ::
                rereadFields (level + 1) fields), rest) :=
            readFields_pretty hfields hvalue htail hend (by omega)
          obtain ⟨text, hquoted, -⟩ := readText_quoted name []
          have hbody : skipBlank body = '"' :: (text ++ (':' :: ' ' ::
              ((pretty (indent + 1) value).toList ++
                ((prettyFields indent fields).toList ++ tail)))) := by
            simp only [body, hquoted, List.cons_append]
            exact skipBlank_cons (by decide) _
          rw [htext]
          simp only [readValue, skipBlank_cons (c := '\x7b') (by decide), skipBlank_lineBreak]
          split
          · next after hclosing =>
              rw [hbody] at hclosing
              cases hclosing
          · simp only [readFields_congr (skipBlank_skipBlank body), hread, Option.bind_eq_bind,
              Option.bind_some, objectOf_namedFields]
            rfl

theorem readsBack (v : Value) : ReadsBack v := by
  match v with
  | .null => exact readsBack_null (fun _ => by simp only [pretty, scalarText]) (fun _ => rfl)
  | .unusable => exact readsBack_null (fun _ => by simp only [pretty, scalarText]) (fun _ => rfl)
  | .bool b => exact readsBack_bool b
  | .int n => exact readsBack_int n
  | .float x => exact readsBack_float x
  | .text s => exact readsBack_text s
  | .list items => exact readsBack_list fun v hv => readsBack v
  | .object fields => exact readsBack_object fun field hfield => readsBack field.2
termination_by v
decreasing_by
  · exact Value.sizeOf_lt_of_mem (v := .list items) hv
  · exact Value.sizeOf_lt_of_mem (v := .object fields) (List.mem_map_of_mem hfield)

/-- What is written is read again, as the value that it is after JSON. -/
theorem read?_write (v : Value) : read? (write v) = some (reread 0 v) := by
  have hread := readsBack v 0 0 (2 * (write v).toList.length + 2) [] ?_ endsNumber_nil
  · rw [List.append_nil] at hread
    unfold read?
    unfold write at hread ⊢
    simp only [hread, Option.bind_eq_bind, Option.bind_some]
    rfl
  · rw [String.length_toList]
    unfold write
    omega

end Json

end Document

end SignalChain
