import BatchIngestion.Library.Fallible
import BatchIngestion.Python.Loads
import Mathlib.Data.Fintype.Basic
import Mathlib.Tactic.FinCases

/-!
# Values survive their JSON text

`json.loads` undoes `json.dumps` for every nested value without duplicate keys whose
floating point numbers are given by their own texts. Objects that `default=str` has
written come back as their texts.
-/

namespace BatchIngestion.Python

open Library

variable {float : Text → Option Text}

/-! ### Texts that are read back -/

/-- A text that is read as a value, whatever follows it. -/
structure Reads (float : Text → Option Text) (t : Text) (value : Value) : Prop where
  /-- It is not empty. -/
  ne_nil : t ≠ []
  /-- It starts with no white space and no closing bracket. -/
  head : ∀ c ∈ t.head?, isJsonSpace c = false ∧ c ≠ ']' ∧ c ≠ '}'
  /-- It is read as the value. -/
  read : ∀ fuel rest, t.length ≤ fuel → EndsValue rest →
    readValue float fuel (t ++ rest) = some (value, rest)

/-- No white space is skipped where there is none. -/
theorem skipSpace_eq_self {t : Text} (h : ∀ c ∈ t.head?, isJsonSpace c = false) :
    skipSpace t = t := by
  cases t with
  | nil => rfl
  | cons c t => rw [skipSpace, List.dropWhile_cons_of_neg (by simp [h c rfl])]

/-- A text that is read is not skipped. -/
theorem Reads.skipSpace {t : Text} {value : Value} (h : Reads float t value) (rest : Text) :
    Python.skipSpace (t ++ rest) = t ++ rest := by
  refine skipSpace_eq_self fun c hc => (h.head c ?_).1
  rwa [List.head?_append_of_ne_nil _ h.ne_nil] at hc

/-- `null`. -/
theorem reads_null : Reads float "null" .none where
  ne_nil := by decide
  head := by rintro _ ⟨⟩; decide
  read fuel rest hfuel _ := by
    obtain ⟨fuel, rfl⟩ : ∃ f, fuel = f + 1 := ⟨fuel - 1, by simp at hfuel; omega⟩
    rfl

/-- `true` and `false`. -/
theorem reads_bool (b : Bool) : Reads float (if b then "true" else "false") (.bool b) where
  ne_nil := by cases b <;> decide
  head := by cases b <;> rintro _ ⟨⟩ <;> decide
  read fuel rest hfuel _ := by
    cases b <;> obtain ⟨fuel, rfl⟩ : ∃ f, fuel = f + 1 := ⟨fuel - 1, by simp at hfuel; omega⟩ <;>
      rfl

/-- A string. -/
theorem reads_string (s : Text) : Reads float (jsonString s) (.str s) where
  ne_nil := by simp [jsonString]
  head c hc := by
    obtain rfl : '"' = c := by simpa [jsonString] using hc
    decide
  read fuel rest hfuel _ := by
    obtain ⟨fuel, rfl⟩ : ∃ f, fuel = f + 1 := ⟨fuel - 1, by simp [jsonString] at hfuel; omega⟩
    have hread := readString_jsonString s rest
    rw [jsonString, List.cons_append] at hread ⊢
    rw [readValue, hread]
    rfl

/-- A character that starts a number. -/
def StartsNumber (c : Char) : Prop := c = '-' ∨ ∃ d : Fin 10, c = d.val.digitChar

/-- What starts with such a character is read as a number. -/
theorem readValue_eq_readNumber {c : Char} (hc : StartsNumber c) (fuel : ℕ) (t : Text) :
    readValue float (fuel + 1) (c :: t) = readNumber float (c :: t) := by
  rcases hc with rfl | ⟨d, rfl⟩
  · rfl
  · fin_cases d <;> rfl

/-- A numeral starts a number. -/
theorem Numeral.IsJson.exists_text {m : Numeral} (hm : m.IsJson) :
    ∃ c t, m.text = c :: t ∧ StartsNumber c := by
  obtain ⟨d, ds, hwhole⟩ := List.exists_cons_of_ne_nil hm.whole_ne
  cases hsign : m.sign with
  | plus => exact absurd hsign hm.sign_ne
  | minus => exact ⟨'-', _, by rw [Numeral.text, hsign]; rfl, .inl rfl⟩
  | none => exact ⟨d.val.digitChar, _, by rw [Numeral.text, hsign, hwhole]; rfl, .inr ⟨d, rfl⟩⟩

/-- A number, when the numeral is read as it. -/
theorem reads_numeral {m : Numeral} (hm : m.IsJson) {value : Value}
    (h : ∀ rest, EndsValue rest → readNumber float (m.text ++ rest) = some (value, rest)) :
    Reads float m.text value := by
  obtain ⟨c, t, htext, hc⟩ := hm.exists_text
  refine ⟨by simp [htext], fun c' hc' => ?_, fun fuel rest hfuel hrest => ?_⟩
  · obtain rfl : c = c' := by simpa [htext] using hc'
    have hdigit : ∀ d : Fin 10, isJsonSpace d.val.digitChar = false ∧ d.val.digitChar ≠ ']' ∧
        d.val.digitChar ≠ '}' := by decide
    rcases hc with rfl | ⟨d, rfl⟩
    · decide
    · exact hdigit d
  · obtain ⟨fuel, rfl⟩ : ∃ f, fuel = f + 1 := ⟨fuel - 1, by simp [htext] at hfuel; omega⟩
    have hread := h rest hrest
    rw [htext, List.cons_append] at hread ⊢
    rw [readValue_eq_readNumber hc, hread]

/-- An integer that could be written. -/
theorem reads_int {n : ℤ} {t : Text} (h : intStr n = .ok t) : Reads float t (.int n) := by
  have ht : intText n = t := by
    unfold intStr at h
    split at h
    · exact Except.ok.inj h
    · cases h
  obtain ⟨m, hm, hinteger, htext⟩ := exists_numeral_intText n
  have hmt : m.text = t := htext.trans ht
  have hreads : Reads float m.text (.int n) := reads_numeral hm fun rest hrest => by
    rw [readNumber_text hm hrest, if_pos hinteger, hmt, parseInt_of_intStr h]
    rfl
  rwa [hmt] at hreads

/-! ### Lists and dictionaries -/

/-- White space before joined texts that are read is skipped, and nothing else. -/
theorem skipSpace_intercalate {t : Text} {value : Value} (ht : Reads float t value)
    (ts : List Text) (rest : Text) :
    skipSpace (' ' :: ((", " : Text).intercalate (t :: ts) ++ rest)) =
      (", " : Text).intercalate (t :: ts) ++ rest := by
  change skipSpace ((", " : Text).intercalate (t :: ts) ++ rest) = _
  cases ts with
  | nil => rw [List.intercalate_singleton, ht.skipSpace]
  | cons t' ts =>
    rw [List.intercalate_cons_cons, List.append_assoc, List.append_assoc, ht.skipSpace]

/-- The items of a list are read back up to its bracket. -/
theorem readItems_intercalate {texts : List Text} {values : List Value}
    (h : List.Forall₂ (Reads float) texts values) (hne : texts ≠ []) (fuel : ℕ) (rest : Text)
    (hfuel : ((", " : Text).intercalate texts).length + 1 ≤ fuel) :
    readItems float fuel ((", " : Text).intercalate texts ++ ']' :: rest) =
      some (values, rest) := by
  have hclose (t : Text) : skipSpace (']' :: t) = ']' :: t := rfl
  have hcomma (t : Text) : skipSpace (',' :: t) = ',' :: t := rfl
  induction h generalizing fuel with
  | nil => exact absurd rfl hne
  | @cons t v texts values ht htexts ih =>
    obtain ⟨fuel, rfl⟩ : ∃ f, fuel = f + 1 := ⟨fuel - 1, by omega⟩
    cases htexts with
    | nil =>
      rw [List.intercalate_singleton] at hfuel ⊢
      have hread := ht.read fuel (']' :: rest) (by omega) (by simp [EndsValue])
      simp only [readItems, hread, Option.bind_eq_bind, Option.bind_some, hclose]
    | @cons t' v' texts values ht' htexts =>
      have hlength : (", " : Text).length = 2 := by decide
      rw [List.intercalate_cons_cons, List.length_append, List.length_append, hlength] at hfuel
      have hjoin : (", " : Text).intercalate (t :: t' :: texts) ++ ']' :: rest =
          t ++ (',' :: ' ' :: ((", " : Text).intercalate (t' :: texts) ++ ']' :: rest)) := by
        rw [List.intercalate_cons_cons, List.append_assoc, List.append_assoc]
        rfl
      have hread := ht.read fuel
        (',' :: ' ' :: ((", " : Text).intercalate (t' :: texts) ++ ']' :: rest)) (by omega)
        (by simp [EndsValue])
      have hitems := ih (by simp) fuel (by omega)
      simp only [hjoin, readItems, hread, Option.bind_eq_bind, Option.bind_some, hcomma,
        skipSpace_intercalate ht', hitems]

/-- The text of a member of a dictionary. -/
def memberText (key text : Text) : Text := jsonString key ++ (':' :: ' ' :: text)

/-- A text that is read as a member. -/
def ReadsMember (float : Text → Option Text) (t : Text) (item : Text × Value) : Prop :=
  ∃ text, t = memberText item.1 text ∧ Reads float text item.2

/-- The members of a dictionary are read back up to its brace. -/
theorem readPairs_intercalate {texts : List Text} {items : List (Text × Value)}
    (h : List.Forall₂ (ReadsMember float) texts items) (hne : texts ≠ []) (fuel : ℕ) (rest : Text)
    (hfuel : ((", " : Text).intercalate texts).length + 1 ≤ fuel) :
    readPairs float fuel ((", " : Text).intercalate texts ++ '}' :: rest) = some (items, rest) := by
  have hclose (t : Text) : skipSpace ('}' :: t) = '}' :: t := rfl
  have hcomma (t : Text) : skipSpace (',' :: t) = ',' :: t := rfl
  have hcolon (t : Text) : skipSpace (':' :: t) = ':' :: t := rfl
  have hblank (t : Text) : skipSpace (' ' :: t) = skipSpace t := rfl
  induction h generalizing fuel with
  | nil => exact absurd rfl hne
  | @cons t item texts items ht htexts ih =>
    obtain ⟨fuel, rfl⟩ : ∃ f, fuel = f + 1 := ⟨fuel - 1, by omega⟩
    obtain ⟨key, value⟩ := item
    obtain ⟨text, rfl, htext⟩ := ht
    dsimp only at *
    have hmember (u : Text) :
        memberText key text ++ u = jsonString key ++ (':' :: ' ' :: (text ++ u)) := by
      simp [memberText]
    have hlong : text.length ≤ (memberText key text).length := by
      simp [memberText]
      omega
    cases htexts with
    | nil =>
      rw [List.intercalate_singleton] at hfuel ⊢
      have hread := htext.read fuel ('}' :: rest) (by omega) (by simp [EndsValue])
      simp only [hmember, readPairs, readString_jsonString, Option.bind_eq_bind, Option.bind_some,
        hcolon, hblank, htext.skipSpace, hread, hclose]
    | @cons t' item' texts items ht' htexts =>
      have hlength : (", " : Text).length = 2 := by decide
      rw [List.intercalate_cons_cons, List.length_append, List.length_append, hlength] at hfuel
      have hjoin : (", " : Text).intercalate (memberText key text :: t' :: texts) ++ '}' :: rest =
          memberText key text ++
            (',' :: ' ' :: ((", " : Text).intercalate (t' :: texts) ++ '}' :: rest)) := by
        rw [List.intercalate_cons_cons, List.append_assoc, List.append_assoc]
        rfl
      have hread := htext.read fuel
        (',' :: ' ' :: ((", " : Text).intercalate (t' :: texts) ++ '}' :: rest)) (by omega)
        (by simp [EndsValue])
      have hitems := ih (by simp) fuel (by omega)
      have hskip : skipSpace ((", " : Text).intercalate (t' :: texts) ++ '}' :: rest) =
          (", " : Text).intercalate (t' :: texts) ++ '}' :: rest := by
        obtain ⟨text', rfl, -⟩ := ht'
        cases texts <;> rfl
      simp only [hjoin, hmember, readPairs, readString_jsonString, Option.bind_eq_bind,
        Option.bind_some, hcolon, hblank, htext.skipSpace, hread, hcomma, hskip, hitems]

/-- A list, when its items are read. -/
theorem reads_list {texts : List Text} {values : List Value}
    (h : List.Forall₂ (Reads float) texts values) :
    Reads float ('[' :: ((", " : Text).intercalate texts ++ [']'])) (.list values) where
  ne_nil := by simp
  head c hc := by
    obtain rfl : '[' = c := by simpa using hc
    decide
  read fuel rest hfuel hrest := by
    obtain ⟨fuel, rfl⟩ : ∃ f, fuel = f + 1 := ⟨fuel - 1, by simp at hfuel; omega⟩
    have hopen : '[' :: ((", " : Text).intercalate texts ++ [']']) ++ rest =
        '[' :: ((", " : Text).intercalate texts ++ ']' :: rest) := by simp
    rw [hopen]
    cases h with
    | nil => rfl
    | @cons t v texts values ht htexts =>
      have hitems := readItems_intercalate (.cons ht htexts) (by simp) fuel rest (by
        simp only [List.length_cons, List.length_append] at hfuel
        simp only [List.length_nil] at hfuel
        omega)
      have hskip : skipSpace ((", " : Text).intercalate (t :: texts) ++ ']' :: rest) =
          (", " : Text).intercalate (t :: texts) ++ ']' :: rest :=
        skipSpace_intercalate ht texts _
      -- the first item does not start with the closing bracket
      obtain ⟨c, u, hcons⟩ := List.exists_cons_of_ne_nil ht.ne_nil
      have hc : c ≠ ']' := (ht.head c (by simp [hcons])).2.1
      obtain ⟨u', hu'⟩ : ∃ u', (", " : Text).intercalate (t :: texts) ++ ']' :: rest = c :: u' := by
        cases texts <;> simp [hcons]
      rw [hu'] at hskip hitems
      rw [hu', readValue, hskip]
      split
      · rename_i heq
        exact absurd (List.cons.inj heq).1 hc
      · rw [hitems]
        rfl

/-- A dictionary, when its members are read and its keys are distinct. -/
theorem reads_dict {texts : List Text} {items : List (Text × Value)}
    (h : List.Forall₂ (ReadsMember float) texts items) (hkeys : (Dict.keys items).Nodup) :
    Reads float ('{' :: ((", " : Text).intercalate texts ++ ['}'])) (.dict items) where
  ne_nil := by simp
  head c hc := by
    obtain rfl : '{' = c := by simpa using hc
    decide
  read fuel rest hfuel hrest := by
    obtain ⟨fuel, rfl⟩ : ∃ f, fuel = f + 1 := ⟨fuel - 1, by simp at hfuel; omega⟩
    have hopen : '{' :: ((", " : Text).intercalate texts ++ ['}']) ++ rest =
        '{' :: ((", " : Text).intercalate texts ++ '}' :: rest) := by simp
    rw [hopen]
    cases h with
    | nil => rfl
    | @cons t item texts items ht htexts =>
      have hpairs := readPairs_intercalate (.cons ht htexts) (by simp) fuel rest (by
        simp only [List.length_cons, List.length_append] at hfuel
        simp only [List.length_nil] at hfuel
        omega)
      obtain ⟨u, hu⟩ : ∃ u, (", " : Text).intercalate (t :: texts) ++ '}' :: rest = '"' :: u := by
        obtain ⟨text, rfl, -⟩ := ht
        cases texts <;> exact ⟨_, rfl⟩
      have hskip : skipSpace ('"' :: u) = '"' :: u := rfl
      rw [hu] at hpairs
      have hupdate : Dict.update [] (item :: items) = item :: items := Dict.update_eq_append hkeys
      rw [hu, readValue, hskip]
      split
      · rename_i heq
        exact absurd (List.cons.inj heq).1 (by decide)
      · rw [hpairs]
        simp only [Option.map_some, hupdate]

/-! ### Values that come back -/

namespace Value

mutual

/-- Every dictionary has distinct keys, and every floating point number is given by its own
text. -/
def Readable (float : Text → Option Text) : Value → Prop
  | .none | .bool _ | .int _ | .str _ | .object _ _ => True
  | .float t => float t = some t ∧ ∃ m : Numeral, m.IsJson ∧ m.isInteger = false ∧ m.text = t
  | .list items => ReadableItems float items
  | .dict items => (Dict.keys items).Nodup ∧ ReadableMembers float items

/-- All items are readable. -/
def ReadableItems (float : Text → Option Text) : List Value → Prop
  | [] => True
  | item :: items => Readable float item ∧ ReadableItems float items

/-- The values of all members are readable. -/
def ReadableMembers (float : Text → Option Text) : List (Text × Value) → Prop
  | [] => True
  | (_, item) :: items => Readable float item ∧ ReadableMembers float items

end

mutual

/-- A value with the texts of its objects. -/
def withTexts : Value → Value
  | .object _ text => .str text
  | .list items => .list (withTextsItems items)
  | .dict items => .dict (withTextsMembers items)
  | value => value

/-- Items with the texts of their objects. -/
def withTextsItems : List Value → List Value
  | [] => []
  | item :: items => withTexts item :: withTextsItems items

/-- Members with the texts of their objects. -/
def withTextsMembers : List (Text × Value) → List (Text × Value)
  | [] => []
  | (key, item) :: items => (key, withTexts item) :: withTextsMembers items

end

/-- The keys stay. -/
theorem keys_withTextsMembers (items : List (Text × Value)) :
    Dict.keys (withTextsMembers items) = Dict.keys items := by
  induction items with
  | nil => rfl
  | cons item items ih => exact congrArg (item.1 :: ·) ih

variable {defaultStr : Bool}

mutual

/-- What is written for a readable value is read as the value. -/
theorem reads_dumps : ∀ {value : Value} {t : Text}, value.dumps defaultStr = .ok t →
    value.Readable float → Reads float t value.withTexts
  | .none, t, h, _ => by
    obtain rfl := Except.ok.inj h
    exact reads_null
  | .bool b, t, h, _ => by
    obtain rfl := Except.ok.inj h
    cases b
    · exact reads_bool false
    · exact reads_bool true
  | .int n, t, h, _ => reads_int h
  | .float text, t, h, ⟨hfloat, m, hm, hinteger, htext⟩ => by
    obtain rfl : text = t := Except.ok.inj h
    have hreads : Reads float m.text (.float text) := reads_numeral hm fun rest hrest => by
      rw [readNumber_text hm hrest, hinteger, if_neg Bool.false_ne_true, htext, hfloat]
      rfl
    rwa [htext] at hreads
  | .str s, t, h, _ => by
    obtain rfl := Except.ok.inj h
    exact reads_string s
  | .object className text, t, h, _ => by
    cases defaultStr with
    | false => cases h
    | true =>
      obtain rfl := Except.ok.inj h
      exact reads_string text
  | .list items, t, h, hreadable => by
    obtain ⟨texts, htexts, h⟩ := bind_eq_ok_iff.mp h
    obtain rfl := Except.ok.inj h
    exact reads_list (reads_dumpsItems htexts hreadable)
  | .dict items, t, h, hreadable => by
    obtain ⟨texts, htexts, h⟩ := bind_eq_ok_iff.mp h
    obtain rfl := Except.ok.inj h
    exact reads_dict (reads_dumpsMembers htexts hreadable.2)
      (by rw [keys_withTextsMembers]; exact hreadable.1)

/-- What is written for items is read as them. -/
theorem reads_dumpsItems : ∀ {items : List Value} {texts : List Text},
    dumpsItems defaultStr items = .ok texts → ReadableItems float items →
    List.Forall₂ (Reads float) texts (withTextsItems items)
  | [], texts, h, _ => by
    obtain rfl := Except.ok.inj h
    exact .nil
  | item :: items, texts, h, hreadable => by
    obtain ⟨t, ht, h⟩ := bind_eq_ok_iff.mp h
    obtain ⟨texts', htexts, h⟩ := bind_eq_ok_iff.mp h
    obtain rfl := Except.ok.inj h
    exact .cons (reads_dumps ht hreadable.1) (reads_dumpsItems htexts hreadable.2)

/-- What is written for members is read as them. -/
theorem reads_dumpsMembers : ∀ {items : List (Text × Value)} {texts : List Text},
    dumpsMembers defaultStr items = .ok texts → ReadableMembers float items →
    List.Forall₂ (ReadsMember float) texts (withTextsMembers items)
  | [], texts, h, _ => by
    obtain rfl := Except.ok.inj h
    exact .nil
  | (key, item) :: items, texts, h, hreadable => by
    obtain ⟨t, ht, h⟩ := bind_eq_ok_iff.mp h
    obtain ⟨texts', htexts, h⟩ := bind_eq_ok_iff.mp h
    obtain rfl := Except.ok.inj h
    exact .cons ⟨t, rfl, reads_dumps ht hreadable.1⟩ (reads_dumpsMembers htexts hreadable.2)

end

/-- **Values survive their JSON text**, with the texts of objects. -/
theorem loads_dumps {value : Value} {t : Text} (h : value.dumps defaultStr = .ok t)
    (hreadable : value.Readable float) : loads float t = some value.withTexts := by
  have hreads := reads_dumps h hreadable
  have hskip := hreads.skipSpace []
  have hread := hreads.read (t.length + 1) [] (by omega) (by simp [EndsValue])
  rw [List.append_nil] at hskip hread
  rw [loads, hskip, hread]
  rfl

/-! ### Values without objects -/

mutual

/-- Without `default=str`, what is written has no objects. -/
theorem withTexts_of_dumps : ∀ {value : Value} {t : Text}, value.dumps false = .ok t →
    value.withTexts = value
  | .none, _, _ | .bool _, _, _ | .int _, _, _ | .float _, _, _ | .str _, _, _ => rfl
  | .object _ _, _, h => by cases h
  | .list items, t, h => by
    obtain ⟨texts, htexts, -⟩ := bind_eq_ok_iff.mp h
    exact congrArg Value.list (withTextsItems_of_dumps htexts)
  | .dict items, t, h => by
    obtain ⟨texts, htexts, -⟩ := bind_eq_ok_iff.mp h
    exact congrArg Value.dict (withTextsMembers_of_dumps htexts)

/-- The items that are written have no objects. -/
theorem withTextsItems_of_dumps : ∀ {items : List Value} {texts : List Text},
    dumpsItems false items = .ok texts → withTextsItems items = items
  | [], _, _ => rfl
  | item :: items, texts, h => by
    obtain ⟨t, ht, h⟩ := bind_eq_ok_iff.mp h
    obtain ⟨texts', htexts, -⟩ := bind_eq_ok_iff.mp h
    rw [withTextsItems, withTexts_of_dumps ht, withTextsItems_of_dumps htexts]

/-- The members that are written have no objects. -/
theorem withTextsMembers_of_dumps : ∀ {items : List (Text × Value)} {texts : List Text},
    dumpsMembers false items = .ok texts → withTextsMembers items = items
  | [], _, _ => rfl
  | (key, item) :: items, texts, h => by
    obtain ⟨t, ht, h⟩ := bind_eq_ok_iff.mp h
    obtain ⟨texts', htexts, -⟩ := bind_eq_ok_iff.mp h
    rw [withTextsMembers, withTexts_of_dumps ht, withTextsMembers_of_dumps htexts]

end

/-- The members of a dictionary are related to their texts. -/
theorem related_withTextsMembers (items : Dict Text Value) :
    Dict.Related (fun value received => received = value.withTexts) items
      (withTextsMembers items) := by
  induction items with
  | nil => exact .nil
  | cons item items ih => exact .cons ⟨rfl, rfl⟩ ih

/-- The values of a readable dictionary are readable. -/
theorem readable_of_mem {items : List (Text × Value)} (h : ReadableMembers float items)
    {item : Text × Value} (hmem : item ∈ items) : item.2.Readable float := by
  induction items with
  | nil => cases hmem
  | cons head items ih =>
    rcases List.mem_cons.mp hmem with rfl | hmem
    · exact h.1
    · exact ih h.2 hmem

/-- Readable members form a readable list. -/
theorem readableMembers_iff {items : List (Text × Value)} :
    ReadableMembers float items ↔ ∀ item ∈ items, item.2.Readable float := by
  refine ⟨fun h item hmem => readable_of_mem h hmem, fun h => ?_⟩
  induction items with
  | nil => trivial
  | cons head items ih =>
    obtain ⟨hhead, hitems⟩ := List.forall_mem_cons.mp h
    exact ⟨hhead, ih hitems⟩

/-- The text of a stream field tells the value, up to its type: an integer, a list or a dictionary
is read as JSON. -/
def ToldBy (float : Text → Option Text) (text : Text) : Value → Prop
  | .none => text = "None"
  | .bool b => text = (if b then "True" else "False" : Text)
  | .float s | .str s | .object _ s => text = s
  | .int n => loads float text = some (.int n)
  | .list items => loads float text = some (.list items)
  | .dict items => loads float text = some (.dict items)

/-- The text of a stream field tells the value. -/
theorem toldBy_of_dumpsOrStr {value : Value} {text : Text} (h : value.dumpsOrStr = .ok text)
    (hreadable : value.Readable float) : value.ToldBy float text := by
  cases value with
  | none => exact (Except.ok.inj h).symm
  | bool b => exact (Except.ok.inj h).symm
  | float s => exact (Except.ok.inj h).symm
  | str s => exact (Except.ok.inj h).symm
  | object c s => exact (Except.ok.inj h).symm
  | int n =>
    have hdumps : (Value.int n).dumps false = .ok text := h
    exact loads_dumps hdumps trivial
  | list items =>
    have hdumps : (Value.list items).dumps false = .ok text := h
    rw [ToldBy, loads_dumps hdumps hreadable, withTexts_of_dumps hdumps]
  | dict items =>
    have hdumps : (Value.dict items).dumps false = .ok text := h
    rw [ToldBy, loads_dumps hdumps hreadable, withTexts_of_dumps hdumps]

end Value

end BatchIngestion.Python
