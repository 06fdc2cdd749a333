import BatchIngestion.Column
import BatchIngestion.Pipeline
import BatchIngestion.Python.IsoOrder

/-!
# SQL sources

`SQLAdapter._build_read_query` bounds a read by two literals: an upper and a lower
bound of the checkpoint column, and a guard that compares the two literals with each
other. A server compares two bare string literals as texts and a timestamp column
with a literal as timestamps. For integers and for naive timestamps both agree with
the order of the column, so a read gives exactly the rows of the half-open window.
-/

namespace BatchIngestion

open Python Library

/-! ### The query -/

/-- `_format_checkpoint`: a timestamp is quoted, anything else is not. -/
def formatCheckpoint : CheckpointValue → Except PyExc Text
  | .datetime d => .ok ('\'' :: (isoformat ' ' d ++ ['\'']))
  | .int n => intStr n
  | .str s => .ok s

/-- The queries that `_build_read_query` builds. -/
inductive ReadQuery
  /-- The custom query of the configuration. -/
  | custom (query : Text)
  /-- All rows of a table. -/
  | table (schema name : Text)
  /-- The rows of a table between two literals. -/
  | window (schema name column fromVal toVal : Text)

/-- The text of a query, as it is passed to Spark JDBC. -/
def ReadQuery.text : ReadQuery → Text
  | .custom query => '(' :: (query ++ (") AS subq" : Text))
  | .table schema name =>
    ("(SELECT * FROM " : Text) ++ schema ++ '.' :: (name ++ (") AS subq" : Text))
  | .window schema name column fromVal toVal =>
    ("(SELECT * FROM " : Text) ++ schema ++ '.' :: (name ++ (" WHERE " : Text) ++ fromVal ++
      (" < " : Text) ++ toVal ++ (" AND " : Text) ++ column ++ (" > " : Text) ++ fromVal ++
      (" AND " : Text) ++ column ++ (" <= " : Text) ++ toVal ++ (") AS subq" : Text))

/-- `_build_read_query`. -/
def buildReadQuery (cfg : TableSourceConfig)
    (checkpointFrom checkpointTo : Option CheckpointValue) : Except PyExc ReadQuery :=
  match cfg.query.getD [] with
  | c :: query => .ok (.custom (c :: query))
  | [] =>
    match cfg.checkpointColumn.getD [], checkpointFrom, checkpointTo with
    | c :: column, some low, some high => do
      let fromVal ← formatCheckpoint low
      let toVal ← formatCheckpoint high
      return .window cfg.schema cfg.table (c :: column) fromVal toVal
    | _, _, _ => .ok (.table cfg.schema cfg.table)

/-- The query that Spark evaluates: a `dbtable` among the read options replaces it, and a
`query` next to it is an error. -/
def effectiveQuery (cfg : TableSourceConfig) (query : ReadQuery) : Except PyExc ReadQuery :=
  if (cfg.readOption "query").isSome then
    .error (.external "Both `dbtable` and `query` can not be specified at the same time.")
  else
    match cfg.readOption "dbtable" with
    | some (.str text) => .ok (.custom text)
    | some _ => .error (.external "The dbtable option must be a table or a subquery.")
    | none => .ok query

/-! ### The server -/

/-- A literal of a query. -/
inductive SqlLiteral
  /-- A number. -/
  | number (value : ℤ)
  /-- A bare string. -/
  | string (value : Text)

/-- The literal of a text: a string stands in quotes and holds none, a number is an
optional sign and digits. -/
def SqlLiteral.ofText : Text → Option SqlLiteral
  | '\'' :: t =>
    if t.getLast? = some '\'' ∧ '\'' ∉ t.dropLast then some (.string t.dropLast) else none
  | t => (parseSigned t).map .number

/-- The comparison of two literals: numbers as numbers, strings as texts by code point. -/
def SqlLiteral.lt : SqlLiteral → SqlLiteral → Option Bool
  | .number a, .number b => some (decide (a < b))
  | .string a, .string b => some (decide (a < b))
  | _, _ => none

/-- The rank of a literal in the column of a value: a string is read as a timestamp. -/
def SqlLiteral.rankFor (v : ColumnValue) : SqlLiteral → Option ℤ
  | .number n =>
    match v with
    | .int _ => some n
    | .timestamp _ => none
  | .string s =>
    match v with
    | .int _ => none
    | .timestamp _ => (fromisoformat s).map DateTime.instant

/-- The `WHERE` clause on one row: the guard and the two bounds. -/
def whereClause (low high : SqlLiteral) (row : Row) : Option Bool := do
  let guard ← low.lt high
  let lowRank ← low.rankFor row.value
  let highRank ← high.rankFor row.value
  return guard && decide (lowRank < row.rank) && decide (row.rank ≤ highRank)

/-- The rows of a query. How the server evaluates a custom query is a parameter. -/
def ReadQuery.eval (custom : Text → List Row → Except PyExc (List Row)) (rows : List Row) :
    ReadQuery → Except PyExc (List Row)
  | .custom query => custom query rows
  | .table schema _ =>
    if schema = [] then .error (.external "syntax error at or near \".\"") else .ok rows
  | .window schema _ _ fromVal toVal =>
    if schema = [] then .error (.external "syntax error at or near \".\"")
    else
      match SqlLiteral.ofText fromVal, SqlLiteral.ofText toVal with
      | some low, some high =>
        if rows.all fun row => (whereClause low high row).isSome then
          .ok (rows.filter fun row => whereClause low high row = some true)
        else .error (.external "operator does not exist")
      | _, _ => .error (.external "syntax error")

/-- The DataFrame of `SQLAdapter.read`, evaluated on a table. -/
def sqlRead {kind : ColumnKind} (cfg : TableSourceConfig)
    (custom : Text → List Row → Except PyExc (List Row)) (table : Table kind)
    (checkpointFrom checkpointTo : Option CheckpointValue) : Except PyExc (List Row) := do
  let query ← buildReadQuery cfg checkpointFrom checkpointTo
  let query ← effectiveQuery cfg query
  query.eval custom table.rows

/-- The server of a table answers the statement of `_max_sql`; the maximum of an empty
table is `NULL`. -/
def sqlNative {kind : ColumnKind} (cfg : TableSourceConfig) (table : Table kind) : Native :=
  { Native.down with
    selectMax := fun statement =>
      if statement = InitOperator.maxSqlStatement cfg (cfg.checkpointColumn.getD []) then
        .ok (some (table.maximum.elim .none ColumnValue.raw))
      else .error (.external "relation does not exist") }

/-- A SQL or MySQL source. -/
def sqlSource {kind : ColumnKind} (readType : ReadAdapterType) (cfg : TableSourceConfig)
    (countRecords : Bool) (custom : Text → List Row → Except PyExc (List Row)) :
    Source (Table kind) (List Row) where
  readType := readType
  config := .table cfg
  countRecords := countRecords
  native := sqlNative cfg
  read := sqlRead cfg custom
  copied _ := []
  size := List.length

/-! ### What the source does -/

/-- A table source with a checkpoint column and without a custom query. -/
structure TableSourceConfig.Incremental (cfg : TableSourceConfig) : Prop where
  /-- There is a checkpoint column. -/
  column : cfg.checkpointColumn.getD [] ≠ []
  /-- There is no custom query. -/
  no_query : cfg.query.getD [] = []
  /-- There is no custom query among the read options. -/
  no_option : ∀ option ∈ cfg.readOptions, option.1.map Char.toLower ≠ ("query" : Text) ∧
    option.1.map Char.toLower ≠ ("dbtable" : Text)

/-- The query of an incremental source is not replaced. -/
theorem TableSourceConfig.Incremental.effectiveQuery_eq {cfg : TableSourceConfig}
    (h : cfg.Incremental) (query : ReadQuery) : effectiveQuery cfg query = .ok query := by
  have hquery : cfg.readOption "query" = none :=
    SourceConfigBase.readOption_eq_none fun option ho => (h.no_option option ho).1
  have hdbtable : cfg.readOption "dbtable" = none :=
    SourceConfigBase.readOption_eq_none fun option ho => (h.no_option option ho).2
  simp only [effectiveQuery, hquery, hdbtable, Option.isSome_none, Bool.false_eq_true, if_false]

/-- The `checkpoint_to` of an incremental source is the maximum of its column. -/
theorem fetchCheckpointTo_sqlNative {kind : ColumnKind} {cfg : TableSourceConfig}
    (h : cfg.Incremental) {readType : ReadAdapterType} (hread : readType = .sql ∨ readType = .mysql)
    (table : Table kind) :
    InitOperator.fetchCheckpointTo readType (.table cfg) (sqlNative cfg table) =
      table.maximum.map ColumnValue.checkpoint := by
  have hmax : InitOperator.maxSql cfg (sqlNative cfg table) (cfg.checkpointColumn.getD []) =
      .ok (table.maximum.map ColumnValue.checkpoint) := by
    simp only [InitOperator.maxSql, sqlNative, if_true, ok_bind, InitOperator.parseRow]
    cases table.maximum with
    | none => rfl
    | some v => exact ColumnValue.parseCheckpoint_raw v
  obtain ⟨c, column, hcolumn⟩ := List.exists_cons_of_ne_nil h.column
  obtain ⟨col, hcol, rfl⟩ : ∃ col, cfg.checkpointColumn = some col ∧ col = c :: column := by
    cases hc : cfg.checkpointColumn with
    | none => simp [hc] at hcolumn
    | some col => exact ⟨col, rfl, by simpa [hc] using hcolumn⟩
  rw [hcol, Option.getD_some] at hmax
  rcases hread with rfl | rfl <;>
    simp [InitOperator.fetchCheckpointTo, SourceConfig.checkpointColumn, hcol,
      InitOperator.nativeMax, hmax, InitOperator.swallow]

/-- The literal that `_format_checkpoint` writes for a column value. -/
def ColumnValue.literal : ColumnValue → SqlLiteral
  | .int n => .number n
  | .timestamp d => .string (isoformat ' ' d)

/-- The text of a formatted column value is that of its literal. -/
theorem SqlLiteral.ofText_formatCheckpoint {v : ColumnValue} {text : Text}
    (h : formatCheckpoint v.checkpoint = .ok text) : SqlLiteral.ofText text = some v.literal := by
  cases v with
  | int n =>
    have htext : intText n = text := by
      simp only [formatCheckpoint, ColumnValue.checkpoint, intStr] at h
      split at h
      · exact Except.ok.inj h
      · simp at h
    have hparse := parseSigned_intText n
    have hquote : ∀ t, intText n ≠ '\'' :: t := by
      intro t ht
      have hnone : parseSigned ('\'' :: t) = none := rfl
      rw [ht, hnone] at hparse
      simp at hparse
    rw [← htext, SqlLiteral.ofText.eq_2 _ hquote, hparse]
    rfl
  | timestamp d =>
    have htext : '\'' :: (isoformat ' ' d ++ ['\'']) = text := Except.ok.inj h
    have hquote : '\'' ∉ isoformat ' ' d := by
      intro hmem
      rcases isIsoChar_of_mem_isoformat hmem with hsep | ⟨m, hm, hdigit⟩ | hmark
      · exact absurd hsep (by decide)
      · revert hdigit
        have hall : ∀ m < 10, '\'' ≠ m.digitChar := by decide
        exact hall m hm
      · exact absurd hmark (by decide)
    rw [← htext, SqlLiteral.ofText]
    simp [hquote, ColumnValue.literal]

/-- The literal of a value has the rank of the value in every column of its kind. -/
theorem ColumnValue.rankFor_literal {kind : ColumnKind} {v w : ColumnValue}
    (hv : kind.holds v = true) (hw : kind.holds w = true) :
    w.literal.rankFor v = some w.rank := by
  cases v <;> cases w
  case int.int => rfl
  case timestamp.timestamp => simp [literal, SqlLiteral.rankFor, fromisoformat_isoformat, rank]
  all_goals cases kind <;> simp [ColumnKind.holds] at hv hw

/-- The guard compares the literals of two values as the column compares the values, unless
the column holds timestamps with an offset. -/
theorem ColumnValue.lt_literal {kind : ColumnKind} (hkind : kind ≠ .aware) {v w : ColumnValue}
    (hv : kind.holds v = true) (hw : kind.holds w = true) :
    v.literal.lt w.literal = some (decide (v.rank < w.rank)) := by
  cases v <;> cases w
  case int.int => rfl
  case timestamp.timestamp d e =>
    have hnaive {x : DateTime} (hx : kind.holds (.timestamp x) = true) :
        x = x.naive.toDateTime := by
      obtain ⟨naive, offset⟩ := x
      cases kind <;> simp_all [ColumnKind.holds, NaiveDateTime.toDateTime]
    rw [hnaive hv, hnaive hw]
    simp [literal, SqlLiteral.lt, isoformat_lt_iff, rank]
  all_goals cases kind <;> simp [ColumnKind.holds] at hv hw

section Read

variable {kind : ColumnKind} {cfg : TableSourceConfig} {table : Table kind} {batch : List Row}
  {custom : Text → List Row → Except PyExc (List Row)}

/-- **A bounded read gives exactly the rows of its window.** -/
theorem sqlRead_window (hcfg : cfg.Incremental) (hkind : kind ≠ .aware) {low high : ColumnValue}
    (hlow : kind.holds low = true) (hhigh : kind.holds high = true)
    (h : sqlRead cfg custom table (some low.checkpoint) (some high.checkpoint) = .ok batch) :
    batch = table.rows.filter fun row => low.rank < row.rank ∧ row.rank ≤ high.rank := by
  obtain ⟨c, column, hcolumn⟩ := List.exists_cons_of_ne_nil hcfg.column
  unfold sqlRead buildReadQuery at h
  simp only [hcfg.no_query, hcolumn] at h
  obtain ⟨query, hquery, h⟩ := bind_eq_ok_iff.mp h
  obtain ⟨fromVal, hfrom, hquery⟩ := bind_eq_ok_iff.mp hquery
  obtain ⟨toVal, hto, hquery⟩ := bind_eq_ok_iff.mp hquery
  obtain rfl := Except.ok.inj hquery
  rw [hcfg.effectiveQuery_eq, ok_bind] at h
  have hclause : ∀ row ∈ table.rows, whereClause low.literal high.literal row =
      some (decide (low.rank < row.rank ∧ row.rank ≤ high.rank)) := by
    intro row hrow
    have htyped := table.typed row hrow
    simp only [whereClause, ColumnValue.lt_literal hkind hlow hhigh,
      ColumnValue.rankFor_literal htyped hlow, ColumnValue.rankFor_literal htyped hhigh,
      Option.bind_eq_bind, Option.bind_some, Option.pure_def, Option.some.injEq]
    -- the guard is implied when a row lies in the window
    by_cases hwindow : low.rank < row.rank ∧ row.rank ≤ high.rank
    · simp [hwindow, hwindow.1.trans_le hwindow.2]
    · rw [decide_eq_false hwindow, Bool.and_assoc, ← Bool.decide_and, decide_eq_false hwindow,
        Bool.and_false]
  simp only [ReadQuery.eval, SqlLiteral.ofText_formatCheckpoint hfrom,
    SqlLiteral.ofText_formatCheckpoint hto] at h
  split at h
  · simp at h
  · split at h
    · obtain rfl := Except.ok.inj h
      refine List.filter_congr fun row hrow => ?_
      rw [hclause row hrow]
      simp
    · simp at h

/-- A read without both bounds gives all rows. -/
theorem sqlRead_full (hcfg : cfg.Incremental) {checkpointFrom checkpointTo : Option CheckpointValue}
    (hnone : checkpointFrom = none ∨ checkpointTo = none)
    (h : sqlRead cfg custom table checkpointFrom checkpointTo = .ok batch) :
    batch = table.rows := by
  have hquery : buildReadQuery cfg checkpointFrom checkpointTo =
      .ok (.table cfg.schema cfg.table) := by
    simp only [buildReadQuery, hcfg.no_query]
    rcases hnone with rfl | rfl
    · cases cfg.checkpointColumn.getD [] <;> rfl
    · cases cfg.checkpointColumn.getD [] <;> cases checkpointFrom <;> rfl
  rw [sqlRead, hquery, ok_bind, hcfg.effectiveQuery_eq, ok_bind, ReadQuery.eval] at h
  split at h
  · simp at h
  · exact (Except.ok.inj h).symm

end Read

/-! ### An example pipeline -/

/-- A table that is read by its `id`. -/
def ordersById : TableSourceConfig where
  credentialRef := "postgres".toList
  extra := []
  readOptions := []
  host := "db".toList
  port := 5432
  database := "shop".toList
  schema := "public".toList
  table := "orders".toList
  query := none
  checkpointColumn := some "id".toList

/-- The configuration is incremental. -/
theorem incremental_ordersById : ordersById.Incremental where
  column := by
    have hid : "id".toList ≠ [] := by simp
    exact hid
  no_query := rfl
  no_option _ ho := absurd ho List.not_mem_nil

/-- A SQL source of the table. -/
def ordersSource : Source (Table .integer) (List Row) :=
  sqlSource .sql ordersById false fun _ _ => .error (.external "no custom query")

/-- The runs of the DAG `orders`, numbered. -/
def ordersSystem : System ℕ (Table .integer) (List Row) :=
  DagFactory.oneDag "orders".toList ordersSource (fun _ => ⟨[], [], []⟩) Table.inserts

/-- Integer values as a table. -/
def Table.ofInts (values : List ℤ) : Table .integer where
  rows := values.map fun n => ⟨0, .int n⟩
  typed := by simp [ColumnKind.holds]

/-- The events of two uneventful runs, with a row inserted in between. -/
def twoOrders : List (Event ℕ (Table .integer)) :=
  ordersSource.uneventful 1 .up ++ [.source (Table.ofInts [7, 12])] ++ ordersSource.uneventful 2 .up

/-- One order, and no stored checkpoint. -/
def oneOrder : State ℕ (Table .integer) (List Row) :=
  State.start ordersSystem (Table.ofInts [7]) fun _ => none

end BatchIngestion
