import BatchIngestion.Library.Literal
import BatchIngestion.NoSqlAdapter
import BatchIngestion.Python.Json
import BatchIngestion.SqlAdapter

/-!
# Text checkpoints in queries

A checkpoint value that is a text goes into a query by an f-string, between quotes or not, and is
never escaped. The texts are read back here by the literal syntax of their languages.
-/

namespace BatchIngestion

open Python Library

/-! ### JSON strings -/

/-- An escape sequence of JSON. -/
def jsonEscape : Text → Option (Text × Text)
  | '\\' :: t => (readChar ('\\' :: t)).map fun next => ([next.1], next.2)
  | _ => none

/-- Four hexadecimal digits are taken up. -/
theorem readHexQuad_spec {t rest : Text} {n : ℕ} (h : readHexQuad t = some (n, rest)) :
    ∃ taken, t = taken ++ rest ∧ taken.length = 4 := by
  unfold readHexQuad at h
  split at h
  · rename_i a b c d t'
    simp only [Option.bind_eq_bind, Option.bind_eq_some_iff, Option.some.injEq, Prod.mk.injEq] at h
    obtain ⟨-, -, -, -, -, -, -, -, -, rfl⟩ := h
    exact ⟨[a, b, c, d], rfl, rfl⟩
  · cases h

/-- A Unicode escape is taken up. -/
theorem readUnicodeEscape_spec {t rest : Text} {c : Char}
    (h : readUnicodeEscape t = some (c, rest)) : ∃ taken, t = taken ++ rest := by
  obtain ⟨⟨high, t'⟩, hhigh, hchar⟩ := Option.bind_eq_some_iff.mp h
  obtain ⟨taken, rfl, -⟩ := readHexQuad_spec hhigh
  dsimp only at hchar
  split at hchar
  · split at hchar
    · obtain ⟨⟨low, t''⟩, hlow, hpair⟩ := Option.bind_eq_some_iff.mp hchar
      obtain ⟨taken', rfl, -⟩ := readHexQuad_spec hlow
      dsimp only at hpair
      split at hpair
      · obtain ⟨-, rfl⟩ := Prod.mk.inj (Option.some.inj hpair)
        exact ⟨taken ++ '\\' :: 'u' :: taken', by simp⟩
      · cases hpair
    · cases hchar
  · obtain ⟨-, rfl⟩ := Prod.mk.inj (Option.some.inj hchar)
    exact ⟨taken, rfl⟩

/-- A backslash is taken up with the character after it. -/
theorem readChar_spec {t rest : Text} {c : Char} (h : readChar ('\\' :: t) = some (c, rest)) :
    ∃ taken, '\\' :: t = taken ++ rest ∧ 2 ≤ taken.length := by
  cases t with
  | nil => cases h
  | cons e t =>
    by_cases hu : e = 'u'
    · subst hu
      obtain ⟨taken, rfl⟩ := readUnicodeEscape_spec h
      exact ⟨'\\' :: 'u' :: taken, rfl, by simp⟩
    · have hrest : t = rest := by
        simp only [readChar] at h
        split at h
        · exact (Prod.mk.inj (Option.some.inj h)).2
        · obtain ⟨_, -, heq⟩ := Option.map_eq_some_iff.mp h
          exact (Prod.mk.inj heq).2
      exact ⟨['\\', e], by simp [hrest], le_rfl⟩

/-- An escape sequence of JSON denotes one character and takes up more. -/
theorem jsonEscape_spec {t s rest : Text} (h : jsonEscape t = some (s, rest)) :
    ∃ taken, t = taken ++ rest ∧ s.length < taken.length := by
  unfold jsonEscape at h
  split at h
  · obtain ⟨⟨c, rest'⟩, hread, heq⟩ := Option.map_eq_some_iff.mp h
    obtain ⟨rfl, rfl⟩ := Prod.mk.inj heq
    exact readChar_spec hread
  · cases h

/-- The strings of JSON. A control character is escaped. -/
def jsonStrings : LiteralSyntax Char where
  quote := '"'
  plain c := c ≠ '\\' ∧ 0x20 ≤ c.toNat
  escape := jsonEscape
  escape_spec h := by
    obtain ⟨taken, rfl, hlength⟩ := jsonEscape_spec h
    exact ⟨taken, List.ne_nil_of_length_pos (Nat.zero_lt_of_lt hlength), rfl, .inr hlength⟩

/-- The texts that denote themselves as JSON strings. -/
def JsonPlain (s : Text) : Prop := ∀ c ∈ s, c ≠ '"' ∧ c ≠ '\\' ∧ 0x20 ≤ c.toNat

/-- No unit of a JSON string denotes itself but the plain characters. -/
theorem verbatim_jsonStrings_iff {s rest : Text} :
    jsonStrings.Verbatim rest s ↔ JsonPlain s := by
  rw [LiteralSyntax.verbatim_iff_forall_plain (σ := jsonStrings) jsonEscape_spec fun c t hc => ?_]
  · exact forall₂_congr fun c _ => and_congr_right' decide_eq_true_iff
  · change jsonEscape (c :: t) = none
    unfold jsonEscape
    split
    · rename_i heq
      exact absurd (List.cons.inj heq).1 (of_decide_eq_true hc).1
    · rfl

/-! ### Spark strings -/

/-- A digit of an octal escape. -/
def isOctal (c : Char) : Bool := 48 ≤ c.toNat && c.toNat ≤ 55

/-- The character of an escape by its code point: `\uXXXX`, `\UXXXXXXXX` or three octal digits,
without the backslash. -/
def sparkCodePoint : Text → Option (Char × Text)
  | 'u' :: t => do
    let (n, t) ← readHexQuad t
    some (Char.ofNat n, t)
  | 'U' :: t => do
    let (high, t) ← readHexQuad t
    let (low, t) ← readHexQuad t
    some (Char.ofNat (high * 0x10000 + low), t)
  | a :: b :: c :: t =>
    if (a = '0' ∨ a = '1') ∧ isOctal b ∧ isOctal c then
      some (Char.ofNat (((a.toNat - 48) * 8 + (b.toNat - 48)) * 8 + (c.toNat - 48)), t)
    else none
  | _ => none

/-- The escapes of a single character that do not stand for this character. The wildcards of
`LIKE` keep their backslash. -/
def sparkEscapes : Dict Char Text := [
  ('0', ['\x00']), ('b', ['\x08']), ('n', ['\n']), ('r', ['\r']), ('t', ['\t']), ('Z', ['\x1a']),
  ('%', ['\\', '%']), ('_', ['\\', '_'])]

/-- An escape sequence of Spark SQL. -/
def sparkEscape : Text → Option (Text × Text)
  | '\\' :: c :: t =>
    match sparkCodePoint (c :: t) with
    | some (d, rest) => some ([d], rest)
    | none => some ((Dict.get? sparkEscapes c).getD [c], t)
  | _ => none

/-- An escape by its code point takes up more than one character. -/
theorem sparkCodePoint_spec {t rest : Text} {c : Char} (h : sparkCodePoint t = some (c, rest)) :
    ∃ taken, t = taken ++ rest ∧ taken ≠ [] := by
  unfold sparkCodePoint at h
  split at h
  · obtain ⟨⟨n, t'⟩, hquad, heq⟩ := Option.bind_eq_some_iff.mp h
    obtain ⟨taken, rfl, -⟩ := readHexQuad_spec hquad
    obtain ⟨-, rfl⟩ := Prod.mk.inj (Option.some.inj heq)
    exact ⟨'u' :: taken, rfl, List.cons_ne_nil _ _⟩
  · obtain ⟨⟨high, t'⟩, hhigh, hlow⟩ := Option.bind_eq_some_iff.mp h
    obtain ⟨⟨low, t''⟩, hquad, heq⟩ := Option.bind_eq_some_iff.mp hlow
    obtain ⟨taken, rfl, -⟩ := readHexQuad_spec hhigh
    obtain ⟨taken', rfl, -⟩ := readHexQuad_spec hquad
    obtain ⟨-, rfl⟩ := Prod.mk.inj (Option.some.inj heq)
    exact ⟨'U' :: (taken ++ taken'), by simp, List.cons_ne_nil _ _⟩
  · rename_i a b d t' _ _
    split at h
    · obtain ⟨-, rfl⟩ := Prod.mk.inj (Option.some.inj h)
      exact ⟨[a, b, d], rfl, List.cons_ne_nil _ _⟩
    · cases h
  · cases h

/-- An escape of a wildcard denotes itself. -/
def IsWildcardEscape (e : Text) : Prop := e = ['\\', '%'] ∨ e = ['\\', '_']

/-- Every escape sequence but that of a wildcard takes up more than it denotes. -/
theorem sparkEscape_spec {t s rest : Text} (h : sparkEscape t = some (s, rest)) :
    ∃ taken, taken ≠ [] ∧ t = taken ++ rest ∧
      (s = taken ∧ IsWildcardEscape s ∨ s.length < taken.length) := by
  unfold sparkEscape at h
  split at h
  · rename_i c t'
    cases hcode : sparkCodePoint (c :: t') with
    | some next =>
      obtain ⟨d, rest'⟩ := next
      rw [hcode] at h
      obtain ⟨rfl, rfl⟩ := Prod.mk.inj (Option.some.inj h)
      obtain ⟨taken, htext, hne⟩ := sparkCodePoint_spec hcode
      refine ⟨'\\' :: taken, List.cons_ne_nil _ _, by rw [htext]; rfl, .inr ?_⟩
      exact Nat.succ_lt_succ (List.length_pos_iff.mpr hne)
    | none =>
      rw [hcode] at h
      obtain ⟨rfl, rfl⟩ := Prod.mk.inj (Option.some.inj h)
      refine ⟨['\\', c], List.cons_ne_nil _ _, rfl, ?_⟩
      cases hget : Dict.get? sparkEscapes c with
      | none => exact .inr (Nat.lt_succ_self _)
      | some e =>
        have hmem := Dict.mem_of_get? hget
        simp only [sparkEscapes, List.mem_cons, Prod.mk.injEq, List.not_mem_nil, or_false] at hmem
        rcases hmem with ⟨rfl, rfl⟩ | ⟨rfl, rfl⟩ | ⟨rfl, rfl⟩ | ⟨rfl, rfl⟩ | ⟨rfl, rfl⟩ |
          ⟨rfl, rfl⟩ | ⟨rfl, rfl⟩ | ⟨rfl, rfl⟩
        all_goals first
          | exact .inr (Nat.lt_succ_self _)
          | exact .inl ⟨rfl, .inl rfl⟩
          | exact .inl ⟨rfl, .inr rfl⟩
  · cases h

/-- The strings of Spark SQL. -/
def sparkStrings : LiteralSyntax Char where
  quote := '\''
  plain c := c ≠ '\\'
  escape := sparkEscape
  escape_spec h := by
    obtain ⟨taken, hne, htext, hself⟩ := sparkEscape_spec h
    exact ⟨taken, hne, htext, hself.imp_left And.left⟩

/-- Whether a text denotes itself as a Spark string: it has no quote, and a backslash only before
a wildcard. -/
def sparkPlain : Text → Bool
  | [] => true
  | ['\\'] => false
  | '\\' :: c :: s => (c == '%' || c == '_') && sparkPlain s
  | c :: s => c != '\'' && sparkPlain s

/-- A symbol other than a backslash. -/
theorem sparkPlain_cons {c : Char} (h : c ≠ '\\') (s : Text) :
    sparkPlain (c :: s) = (c != '\'' && sparkPlain s) := by
  rw [sparkPlain]
  · exact fun heq => absurd heq h
  · exact fun _ _ heq => absurd heq h

/-- Another symbol is no escape. -/
theorem sparkEscape_cons {c : Char} (h : c ≠ '\\') (s : Text) : sparkEscape (c :: s) = none := by
  unfold sparkEscape
  split
  · rename_i heq
    exact absurd (List.cons.inj heq).1 h
  · rfl

/-- The escape of a wildcard. -/
theorem sparkEscape_wildcard {c : Char} (h : c = '%' ∨ c = '_') (t : Text) :
    sparkEscape ('\\' :: c :: t) = some (['\\', c], t) := by
  have hcode : sparkCodePoint (c :: t) = none := by
    rcases h with rfl | rfl <;> rcases t with _ | ⟨a, _ | ⟨b, t⟩⟩ <;> rfl
  rw [sparkEscape, hcode]
  rcases h with rfl | rfl <;> rfl

/-- The units of a Spark string that denote themselves. -/
theorem verbatim_sparkStrings_iff {s rest : Text} :
    sparkStrings.Verbatim rest s ↔ sparkPlain s = true := by
  constructor
  · intro h
    induction h with
    | nil => rfl
    | plain _ hquote hplain _ ih =>
      rw [sparkPlain_cons (of_decide_eq_true hplain), ih, Bool.and_true]
      exact bne_iff_ne.mpr hquote
    | escape hescape _ ih =>
      obtain ⟨taken, -, htext, hself⟩ := sparkEscape_spec hescape
      obtain rfl := List.append_cancel_right htext
      rcases hself with ⟨-, rfl | rfl⟩ | hlt
      · exact ih
      · exact ih
      · exact absurd hlt (Nat.lt_irrefl _)
  · intro h
    induction s using sparkPlain.induct with
    | case1 => exact .nil
    | case2 => cases h
    | case3 c s ih =>
      rw [sparkPlain, Bool.and_eq_true, Bool.or_eq_true, beq_iff_eq, beq_iff_eq] at h
      exact .escape (e := ['\\', c]) (sparkEscape_wildcard h.1 _) (ih h.2)
    | case4 c s hlast hcons ih =>
      have hbackslash : c ≠ '\\' := by
        rintro rfl
        cases s with
        | nil => exact hlast rfl rfl
        | cons d s => exact hcons d s rfl rfl
      rw [sparkPlain_cons hbackslash, Bool.and_eq_true, bne_iff_ne] at h
      exact .plain (sparkEscape_cons hbackslash _) h.1 (decide_eq_true hbackslash) (ih h.2)

/-! ### Standard SQL strings -/

/-- A doubled quote. -/
def sqlEscape : Text → Option (Text × Text)
  | '\'' :: '\'' :: t => some (['\''], t)
  | _ => none

/-- The strings of standard SQL. -/
def sqlStrings : LiteralSyntax Char where
  quote := '\''
  plain _ := true
  escape := sqlEscape
  escape_spec {t s rest} h := by
    unfold sqlEscape at h
    split at h
    · obtain ⟨rfl, rfl⟩ := Prod.mk.inj (Option.some.inj h)
      exact ⟨['\'', '\''], List.cons_ne_nil _ _, rfl, .inr (Nat.lt_succ_self _)⟩
    · cases h

/-! ### The query texts -/

/-- The filter that `NoSQLAdapter.read` and `FileAdapter.read` pass to `df.filter`. -/
def filterText (checkpointColumn : Option Text) (checkpointFrom : Option CheckpointValue) :
    Except PyExc (Option Text) :=
  (filterLiteral checkpointColumn checkpointFrom).map fun literal =>
    literal.map fun (column, literal) => column ++ (" > '" : Text) ++ literal ++ ['\'']

/-- The query texts that are built from checkpoints. -/
inductive QueryText
  /-- The query of a SQL adapter, for a server with given literals. -/
  | sql (literals : LiteralReader Char) (cfg : TableSourceConfig)
  /-- The pipeline of the MongoDB adapter. -/
  | mongo (cfg : TableSourceConfig)
  /-- The DataFrame filter of a NoSQL adapter. -/
  | noSqlFilter (cfg : TableSourceConfig)
  /-- The DataFrame filter of a file adapter. -/
  | fileFilter (cfg : PathSourceConfig)

namespace QueryText

/-- The text is made of a checkpoint column, and no custom query takes its place. -/
def Incremental : QueryText → Prop
  | sql _ cfg | mongo cfg => cfg.checkpointColumn.getD [] ≠ [] ∧ cfg.query.getD [] = []
  | noSqlFilter cfg => cfg.checkpointColumn.getD [] ≠ []
  | fileFilter cfg => cfg.checkpointColumn.getD [] ≠ []

/-- The text for two checkpoints that are texts. -/
def build (low high : Text) : QueryText → Except PyExc (Option Text)
  | sql _ cfg =>
    (buildReadQuery cfg (some (.str low)) (some (.str high))).map fun query => some query.text
  | mongo cfg =>
    (aggregationPipeline cfg (some (.str low))).map fun pipeline =>
      pipeline.map AggregationPipeline.text
  | noSqlFilter cfg => filterText cfg.checkpointColumn (some (.str low))
  | fileFilter cfg => filterText cfg.checkpointColumn (some (.str low))

/-- What the literals of a text denote, where they stand between its fixed parts. -/
def parse (text : Text) : QueryText → Option (List Text)
  | sql literals cfg => literals.readBetween [
      ("(SELECT * FROM " : Text) ++ cfg.schema ++ '.' :: (cfg.table ++ (" WHERE " : Text)),
      " < ",
      (" AND " : Text) ++ cfg.checkpointColumn.getD [] ++ (" > " : Text),
      (" AND " : Text) ++ cfg.checkpointColumn.getD [] ++ (" <= " : Text),
      ") AS subq"] text
  | mongo cfg => jsonStrings.reader.readBetween [
      ("[\x7b\"$match\": \x7b\"" : Text) ++ cfg.checkpointColumn.getD [] ++
        ("\": \x7b\"$gt\": " : Text),
      "\x7d\x7d\x7d]"] text
  | noSqlFilter cfg => sparkStrings.reader.readBetween [
      cfg.checkpointColumn.getD [] ++ (" > " : Text), []] text
  | fileFilter cfg => sparkStrings.reader.readBetween [
      cfg.checkpointColumn.getD [] ++ (" > " : Text), []] text

/-- What the literals should denote: the bounds of the guard and of the window, or the lower
bound. -/
def bounds (low high : Text) : QueryText → List Text
  | sql _ _ => [low, high, low, high]
  | _ => [low]

/-- Every text that is built is one expression whose literals denote the checkpoints. -/
def KeepsData (low high : Text) (q : QueryText) : Prop :=
  ∀ text, q.build low high = .ok (some text) → q.parse text = some (q.bounds low high)

/-- The lower bounds that a text can hold. -/
def Admits (low : Text) : QueryText → Prop
  | sql _ _ => False
  | mongo _ => JsonPlain low
  | noSqlFilter _ | fileFilter _ => sparkPlain low = true

end QueryText

/-- The text of a query with a window. -/
theorem ReadQuery.text_window (schema name column fromVal toVal : Text) :
    (window schema name column fromVal toVal).text =
      ("(SELECT * FROM " : Text) ++ schema ++ '.' :: (name ++ (" WHERE " : Text) ++ fromVal ++
        (" < " : Text) ++ toVal ++ (" AND " : Text) ++ column ++ (" > " : Text) ++ fromVal ++
        (" AND " : Text) ++ column ++ (" <= " : Text) ++ toVal ++ (") AS subq" : Text)) := rfl

/-- Without quotes no bound of a SQL query is a literal. -/
theorem not_keepsData_sql (literals : LiteralReader Char) {cfg : TableSourceConfig}
    (h : (QueryText.sql literals cfg).Incremental) (low high : Text) :
    ¬ (QueryText.sql literals cfg).KeepsData low high := by
  obtain ⟨hcolumn, hquery⟩ := h
  intro hkeeps
  obtain ⟨c, column, hcons⟩ := List.exists_cons_of_ne_nil hcolumn
  have hbuild : (QueryText.sql literals cfg).build low high =
      .ok (some (ReadQuery.window cfg.schema cfg.table (c :: column) low high).text) := by
    simp only [QueryText.build, buildReadQuery, hquery, hcons, formatCheckpoint, ok_bind,
      pure_eq_ok, Except.map]
  have hparse := hkeeps _ hbuild
  simp only [QueryText.parse] at hparse
  have hlength := LiteralReader.length_le_of_readBetween hparse
  simp only [QueryText.bounds, ReadQuery.text_window, hcons, List.flatten_cons, List.flatten_nil,
    List.length_cons, List.length_append, List.length_nil] at hlength
  omega

/-- A literal in quotes between two fixed texts denotes what stands between the quotes exactly when
it consists of units that denote themselves. -/
theorem readBetween_quoted_iff {σ : LiteralSyntax Char} {fixed last s : Text}
    (hclose : σ.escape (σ.quote :: last) = none) :
    σ.reader.readBetween [fixed, last] (fixed ++ σ.quote :: (s ++ σ.quote :: last)) = some [s] ↔
      σ.Verbatim (σ.quote :: last) s := by
  rw [LiteralReader.readBetween_pair_iff, LiteralSyntax.reader_read_quote,
    LiteralSyntax.readBody_eq_self_iff hclose]

namespace QueryText

variable {q : QueryText} {low high : Text}

/-- A text that is built is all there is to check. -/
theorem keepsData_iff_parse {text : Text} (h : q.build low high = .ok (some text)) :
    q.KeepsData low high ↔ q.parse text = some (q.bounds low high) := by
  refine ⟨fun hkeeps => hkeeps text h, fun hparse text' htext => ?_⟩
  obtain rfl := Option.some.inj (Except.ok.inj (h.symm.trans htext))
  exact hparse

/-- Where no text is built, there is nothing to check. -/
theorem keepsData_of_none (h : q.build low high = .ok none) : q.KeepsData low high := by
  intro text htext
  rw [h] at htext
  cases htext

end QueryText

/-- The text of a pipeline, with its operand in quotes. -/
theorem AggregationPipeline.text_greaterThan (column operand : Text) :
    (greaterThan column operand).text =
      ("[\x7b\"$match\": \x7b\"" : Text) ++ column ++ ("\": \x7b\"$gt\": " : Text) ++
        '"' :: (operand ++ '"' :: ("\x7d\x7d\x7d]" : Text)) := by
  have hopen : ("\": \x7b\"$gt\": \"" : Text) = ("\": \x7b\"$gt\": " : Text) ++ ['"'] := by
    decide +kernel
  have hclose : ("\"\x7d\x7d\x7d]" : Text) = '"' :: ("\x7d\x7d\x7d]" : Text) := by
    decide +kernel
  change ("[\x7b\"$match\": \x7b\"" : Text) ++ column ++ ("\": \x7b\"$gt\": \"" : Text) ++
    operand ++ ("\"\x7d\x7d\x7d]" : Text) = _
  rw [hopen, hclose]
  simp only [List.append_assoc, List.cons_append, List.nil_append]

/-- The operand of the pipeline. -/
theorem keepsData_mongo_iff {cfg : TableSourceConfig} (h : (QueryText.mongo cfg).Incremental)
    (low high : Text) : (QueryText.mongo cfg).KeepsData low high ↔ JsonPlain low := by
  obtain ⟨hcolumn, hquery⟩ := h
  obtain ⟨c, column, hcons⟩ := List.exists_cons_of_ne_nil hcolumn
  cases low with
  | nil =>
    refine iff_of_true (QueryText.keepsData_of_none ?_) fun c hc => absurd hc List.not_mem_nil
    simp only [QueryText.build, aggregationPipeline, filterLiteral, hquery, hcons]
    rfl
  | cons d low =>
    have hbuild : (QueryText.mongo cfg).build (d :: low) high =
        .ok (some (AggregationPipeline.greaterThan (c :: column) (d :: low)).text) := by
      simp only [QueryText.build, aggregationPipeline, filterLiteral, hquery, hcons]
      rfl
    rw [QueryText.keepsData_iff_parse hbuild, AggregationPipeline.text_greaterThan, ← hcons,
      ← verbatim_jsonStrings_iff]
    simp only [QueryText.parse, QueryText.bounds]
    exact readBetween_quoted_iff (σ := jsonStrings) rfl

/-- The filter of a DataFrame. -/
theorem readBetween_filterText_iff {checkpointColumn : Option Text}
    (h : checkpointColumn.getD [] ≠ []) (low : Text) :
    (∀ text, filterText checkpointColumn (some (.str low)) = .ok (some text) →
      sparkStrings.reader.readBetween [checkpointColumn.getD [] ++ (" > " : Text), []] text =
        some [low]) ↔ sparkPlain low = true := by
  obtain ⟨c, column, hcons⟩ := List.exists_cons_of_ne_nil h
  cases low with
  | nil =>
    refine iff_of_true (fun text htext => ?_) rfl
    have hnone : filterText checkpointColumn (some (.str [])) = .ok none := by
      simp only [filterText, filterLiteral, hcons]
      rfl
    rw [hnone] at htext
    cases htext
  | cons d low =>
    have hopen : (" > '" : Text) = (" > " : Text) ++ ['\''] := by decide +kernel
    have htext : filterText checkpointColumn (some (.str (d :: low))) = .ok (some
        (checkpointColumn.getD [] ++ (" > " : Text) ++ '\'' :: (d :: low ++ ['\'']))) := by
      simp only [filterText, filterLiteral, hcons, hopen, List.append_assoc, List.singleton_append]
      rfl
    rw [← verbatim_sparkStrings_iff, ← readBetween_quoted_iff (σ := sparkStrings) rfl]
    refine ⟨fun hall => hall _ htext, fun hparse text' htext' => ?_⟩
    obtain rfl := Option.some.inj (Except.ok.inj (htext.symm.trans htext'))
    exact hparse

/-- **Which query texts keep a text checkpoint as data**: no SQL query, a MongoDB pipeline for the
values without a quotation mark, a backslash or a control character, and a DataFrame filter for
the values without a quote and with a backslash only before a wildcard. -/
theorem keepsData_iff {q : QueryText} (hq : q.Incremental) (low high : Text) :
    q.KeepsData low high ↔ q.Admits low := by
  cases q with
  | sql literals cfg => exact iff_of_false (not_keepsData_sql literals hq low high) not_false
  | mongo cfg => exact keepsData_mongo_iff hq low high
  | noSqlFilter cfg => exact readBetween_filterText_iff hq low
  | fileFilter cfg => exact readBetween_filterText_iff hq low

/-- A file source with a checkpoint column. -/
def ordersFiles : PathSourceConfig where
  credentialRef := "hdfs"
  extra := []
  readOptions := []
  path := "hdfs://namenode:9000/orders"
  fileFormat := "parquet"
  checkpointColumn := some "code".toList

/-- A plain order number is kept by the texts with quotes. -/
theorem keepsData_orderCode :
    (QueryText.mongo ordersById).KeepsData "A-100" "A-200" ∧
      (QueryText.fileFilter ordersFiles).KeepsData "A-100" "A-200" := by
  have hmongo : (QueryText.mongo ordersById).Incremental := ⟨incremental_ordersById.column, rfl⟩
  have hfile : (QueryText.fileFilter ordersFiles).Incremental := by
    change ("code" : Text) ≠ []
    decide +kernel
  have hall : ("A-100" : Text).all (fun c => c ≠ '"' ∧ c ≠ '\\' ∧ 0x20 ≤ c.toNat) = true := by
    decide +kernel
  have hplain : JsonPlain "A-100" :=
    fun c hc => of_decide_eq_true (List.all_eq_true.mp hall c hc)
  have hspark : sparkPlain "A-100" = true := by decide +kernel
  exact ⟨(keepsData_iff hmongo _ _).mpr hplain, (keepsData_iff hfile _ _).mpr hspark⟩

/-- No query keeps the name `O'Neil "Jr"`, and the SQL query does not keep a plain order number. -/
theorem not_keepsData_quotes :
    parseText "O'Neil \"Jr\"" = .str "O'Neil \"Jr\"" ∧
      ¬ (QueryText.sql sqlStrings.reader ordersById).KeepsData "O'Neil \"Jr\"" "O'Neil \"Jr\"" ∧
      ¬ (QueryText.mongo ordersById).KeepsData "O'Neil \"Jr\"" "O'Neil \"Jr\"" ∧
      ¬ (QueryText.noSqlFilter ordersById).KeepsData "O'Neil \"Jr\"" "O'Neil \"Jr\"" ∧
      ¬ (QueryText.fileFilter ordersFiles).KeepsData "O'Neil \"Jr\"" "O'Neil \"Jr\"" ∧
      parseText "A-100" = .str "A-100" ∧
      ¬ (QueryText.sql sqlStrings.reader ordersById).KeepsData "A-100" "A-200" := by
  have hcolumn := incremental_ordersById.column
  have hcode : ordersFiles.checkpointColumn.getD [] ≠ [] := by
    change ("code" : Text) ≠ []
    decide +kernel
  have hspark : sparkPlain "O'Neil \"Jr\"" ≠ true := by decide +kernel
  refine ⟨by decide +kernel, not_keepsData_sql _ ⟨hcolumn, rfl⟩ _ _, fun h => ?_, fun h => ?_,
    fun h => ?_, by decide +kernel, not_keepsData_sql _ ⟨hcolumn, rfl⟩ _ _⟩
  · have hplain := (keepsData_mongo_iff ⟨hcolumn, rfl⟩ _ _).mp h
    exact (hplain '"' (by decide +kernel)).1 rfl
  · exact hspark ((readBetween_filterText_iff hcolumn _).mp h)
  · exact hspark ((readBetween_filterText_iff hcode _).mp h)

end BatchIngestion
