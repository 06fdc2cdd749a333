import BatchIngestion.Column
import BatchIngestion.Pipeline

/-!
# NoSQL sources

`NoSQLAdapter.read` filters the loaded DataFrame by a quoted literal, and has no upper
bound. The MongoDB adapter also passes the literal to the server, as the string operand
of `$gt`. A comparison in MongoDB is bracketed by type, so there a string matches neither
a number nor a date.
-/

namespace BatchIngestion

open Python Library

/-! ### The query -/

/-- The column and `str(checkpoint_from)`, when there is a column and the checkpoint is
truthy: what the filters are made of. -/
def filterLiteral (checkpointColumn : Option Text) (checkpointFrom : Option CheckpointValue) :
    Except PyExc (Option (Text × Text)) :=
  match checkpointColumn.getD [], checkpointFrom with
  | c :: column, some v =>
    if truthyCheckpoint (some v) then v.format.map fun literal => some (c :: column, literal)
    else .ok none
  | _, _ => .ok none

/-- The aggregation pipelines of the MongoDB adapter. -/
inductive AggregationPipeline
  /-- The custom query of the configuration. -/
  | custom (query : Text)
  /-- A `$match` stage with `$gt` and a string operand. -/
  | greaterThan (column operand : Text)

/-- The text of a pipeline, as it is passed to the connector. -/
def AggregationPipeline.text : AggregationPipeline → Text
  | .custom query => query
  | .greaterThan column operand =>
    ("[\x7b\"$match\": \x7b\"" : Text) ++ column ++ ("\": \x7b\"$gt\": \"" : Text) ++ operand ++
      ("\"\x7d\x7d\x7d]" : Text)

/-- The pipeline option of `SourceMongoDBAdapter._build_connection_options`. -/
def aggregationPipeline (cfg : TableSourceConfig) (checkpointFrom : Option CheckpointValue) :
    Except PyExc (Option AggregationPipeline) := do
  let operand ← filterLiteral cfg.checkpointColumn checkpointFrom
  return match cfg.query.getD [] with
    | [] => operand.map fun (column, literal) => .greaterThan column literal
    | c :: query => some (.custom (c :: query))

/-! ### The stores -/

/-- The values of a document. -/
inductive BsonValue
  /-- A number. -/
  | number (value : ℤ)
  /-- A date. -/
  | date (value : DateTime)
  /-- A string. -/
  | string (value : Text)

/-- `$gt`, bracketed by type. -/
def BsonValue.gt : BsonValue → BsonValue → Bool
  | .number a, .number b => decide (b < a)
  | .date a, .date b => decide (b.instant < a.instant)
  | .string a, .string b => decide (b < a)
  | _, _ => false

/-- The field of a document. -/
def ColumnValue.bson : ColumnValue → BsonValue
  | .int n => .number n
  | .timestamp d => .date d

/-- The documents that a pipeline lets through. -/
def AggregationPipeline.eval (custom : Text → List Row → Except PyExc (List Row))
    (rows : List Row) : AggregationPipeline → Except PyExc (List Row)
  | .custom query => custom query rows
  | .greaterThan _ operand =>
    .ok (rows.filter fun row => row.value.bson.gt (.string operand))

/-- A literal that Spark has cast to the type of a column value. -/
def castLiteral (v : ColumnValue) (literal : Text) : Option ℤ :=
  match v with
  | .int _ => parseSigned literal
  | .timestamp _ => (fromisoformat literal).map DateTime.instant

/-- The filter of the DataFrame on one row: the column against the cast literal. -/
def dataFrameFilter (literal : Text) (row : Row) : Bool :=
  match castLiteral row.value literal with
  | some n => decide (n < row.rank)
  | none => false

/-- The rows that the connector loads: only MongoDB is given a pipeline. -/
def load (readType : ReadAdapterType) (cfg : TableSourceConfig)
    (custom : Text → List Row → Except PyExc (List Row)) (rows : List Row)
    (checkpointFrom : Option CheckpointValue) : Except PyExc (List Row) :=
  if readType = .nosql then do
    let pipeline ← aggregationPipeline cfg checkpointFrom
    pipeline.elim (.ok rows) (AggregationPipeline.eval custom rows)
  else .ok rows

/-- The filter after a load: `checkpoint_column > 'checkpoint_from'`, when there is a column
and the checkpoint is truthy. -/
def filterAfterLoad (checkpointColumn : Option Text) (checkpointFrom : Option CheckpointValue)
    (rows : List Row) : Except PyExc (List Row) := do
  let literal ← filterLiteral checkpointColumn checkpointFrom
  return literal.elim rows fun literal => rows.filter (dataFrameFilter literal.2)

/-- The DataFrame of `NoSQLAdapter.read`, evaluated on a table. -/
def noSqlRead {kind : ColumnKind} (readType : ReadAdapterType) (cfg : TableSourceConfig)
    (custom : Text → List Row → Except PyExc (List Row)) (table : Table kind)
    (checkpointFrom _checkpointTo : Option CheckpointValue) : Except PyExc (List Row) := do
  let rows ← load readType cfg custom table.rows checkpointFrom
  filterAfterLoad cfg.checkpointColumn checkpointFrom rows

/-- The attribute of an item. A number has at most 38 digits. -/
def AttributeValue.ofColumn : ColumnValue → Except PyExc AttributeValue
  | .int n =>
    if (Nat.toDigits 10 n.natAbs).length ≤ 38 then .ok { n := some (intText n) }
    else .error (.external "Number overflow")
  | .timestamp d => .ok { s := some (isoformat 'T' d) }

/-- The servers of a table answer the aggregation of `_max_mongodb`, the scan of
`_max_dynamodb` and the statement of `_max_cassandra`. -/
def noSqlNative {kind : ColumnKind} (cfg : TableSourceConfig) (table : Table kind) : Native :=
  let column := cfg.checkpointColumn.getD []
  { Native.down with
    groupMax := fun field =>
      if field = '$' :: column then .ok (table.maximum.map ColumnValue.raw) else .ok none
    scan := fun name =>
      if name = column then
        (table.rows.mapM fun row => AttributeValue.ofColumn row.value).map fun items => [items]
      else .ok []
    selectMax := fun statement =>
      if statement = InitOperator.maxCassandraStatement cfg column then
        .ok (some (table.maximum.elim .none ColumnValue.raw))
      else .error (.external "unconfigured table") }

/-- A MongoDB, DynamoDB or Cassandra source. -/
def noSqlSource {kind : ColumnKind} (readType : ReadAdapterType) (cfg : TableSourceConfig)
    (countRecords : Bool) (custom : Text → List Row → Except PyExc (List Row)) :
    Source (Table kind) (List Row) where
  readType := readType
  config := .table cfg
  countRecords := countRecords
  native := noSqlNative cfg
  read := noSqlRead readType cfg custom
  copied _ := []
  size := List.length

/-! ### The maximum -/

/-- An item reads back as the checkpoint of its column. -/
theorem AttributeValue.exists_raw_ofColumn {v : ColumnValue} {attr : AttributeValue}
    (h : AttributeValue.ofColumn v = .ok attr) :
    ∃ raw, attr.raw = some raw ∧ parseText raw = v.checkpoint := by
  cases v with
  | int n =>
    simp only [AttributeValue.ofColumn] at h
    split at h
    · rename_i hdigits
      obtain rfl := Except.ok.inj h
      have hparse := parseSigned_intText n
      have hne : intText n ≠ [] := by
        intro hnil
        rw [hnil] at hparse
        exact absurd hparse (by simp [parseSigned, parseDigits])
      have hstr : intStr n = .ok (intText n) := if_pos (hdigits.trans (by decide))
      refine ⟨intText n, by simp [AttributeValue.raw, hne], ?_⟩
      exact parseText_of_text (v := .int n) trivial (by
        simp [CheckpointValue.serialise, TaggedCheckpoint.text, hstr, Except.map])
    · simp at h
  | timestamp d =>
    obtain rfl := Except.ok.inj h
    refine ⟨isoformat 'T' d, rfl, ?_⟩
    rw [parseText, strip_isoformat]
    simp only [parseInt_isoformat, fromisoformat_isoformat]
    rfl

/-- Two values of one kind compare as their ranks. -/
theorem CheckpointValue.gt_checkpoint {kind : ColumnKind} {v w : ColumnValue}
    (hv : kind.holds v = true) (hw : kind.holds w = true) :
    v.checkpoint.gt w.checkpoint = .ok (decide (w.rank < v.rank)) := by
  cases v <;> cases w
  case int.int => rfl
  case timestamp.timestamp d e =>
    have hoffset : d.offset.isSome = e.offset.isSome := by
      cases kind <;> simp_all [ColumnKind.holds]
    simp only [gt, ColumnValue.checkpoint, if_pos hoffset, ColumnValue.rank]
    exact congrArg Except.ok (decide_eq_decide.mpr Iff.rfl)
  all_goals cases kind <;> simp [ColumnKind.holds] at hv hw

/-- The loop over the items of a scan computes the first row with the maximal rank. -/
theorem foldlM_maxItem_eq {kind : ColumnKind} {rows : List Row} {items : List AttributeValue}
    (acc : Option Row)
    (hitems : rows.mapM (fun row => AttributeValue.ofColumn row.value) = .ok items)
    (htyped : ∀ row ∈ rows, kind.holds row.value = true)
    (hacc : ∀ row, acc = some row → kind.holds row.value = true) :
    items.foldlM InitOperator.maxItem (acc.map fun row => row.value.checkpoint) =
      .ok ((rows.foldl (List.argAux fun b c => Row.rank c < Row.rank b) acc).map fun row =>
        row.value.checkpoint) := by
  induction rows generalizing items acc with
  | nil =>
    obtain rfl : [] = items := by simpa using hitems
    rfl
  | cons row rows ih =>
    rw [List.mapM_cons] at hitems
    obtain ⟨attr, hattr, hitems⟩ := bind_eq_ok_iff.mp hitems
    obtain ⟨rest, hrest, hitems⟩ := bind_eq_ok_iff.mp hitems
    obtain rfl := Except.ok.inj hitems
    obtain ⟨raw, hraw, hparse⟩ := AttributeValue.exists_raw_ofColumn hattr
    have hrow := htyped row List.mem_cons_self
    have hround : InitOperator.maxItem (acc.map fun row => row.value.checkpoint) attr =
        .ok ((List.argAux (fun b c => Row.rank c < Row.rank b) acc row).map fun row =>
          row.value.checkpoint) := by
      simp only [InitOperator.maxItem, hraw, hparse]
      cases acc with
      | none => rfl
      | some best =>
        simp only [Option.map_some, CheckpointValue.gt_checkpoint hrow (hacc best rfl), ok_bind,
          List.argAux, Row.rank]
        by_cases hlt : best.value.rank < row.value.rank <;> simp [hlt]
    rw [List.foldlM_cons, hround, ok_bind, List.foldl_cons]
    refine ih _ hrest (fun r hr => htyped r (List.mem_cons_of_mem _ hr)) fun r hr => ?_
    cases acc with
    | none =>
      obtain rfl := Option.some.inj hr
      exact hrow
    | some best =>
      simp only [List.argAux] at hr
      split at hr
      · obtain rfl := Option.some.inj hr
        exact hrow
      · obtain rfl := Option.some.inj hr
        exact hacc _ rfl

/-- The scan of `_max_dynamodb` finds the maximum of the column. -/
theorem maxDynamodb_eq {kind : ColumnKind} {cfg : TableSourceConfig} {table : Table kind}
    {v : Option CheckpointValue}
    (h : InitOperator.maxDynamodb (noSqlNative cfg table) (cfg.checkpointColumn.getD []) = .ok v) :
    v = table.maximum.map ColumnValue.checkpoint := by
  obtain ⟨pages, hpages, h⟩ := bind_eq_ok_iff.mp h
  simp only [noSqlNative, if_true] at hpages
  obtain ⟨items, hitems, rfl⟩ := map_eq_ok_iff.mp hpages
  have hfold := foldlM_maxItem_eq none hitems table.typed (by simp)
  rw [List.flatten_singleton] at h
  have heq := h.symm.trans hfold
  rw [Except.ok.inj heq, Table.maximum, Option.map_map]
  rfl

/-- The `checkpoint_to` of a NoSQL source is the maximum of its column. -/
theorem maximum_of_fetchCheckpointTo_noSqlNative {kind : ColumnKind} {cfg : TableSourceConfig}
    {readType : ReadAdapterType}
    (hread : readType = .nosql ∨ readType = .dynamodb ∨ readType = .cassandra) {table : Table kind}
    {v : CheckpointValue}
    (h : InitOperator.fetchCheckpointTo readType (.table cfg) (noSqlNative cfg table) = some v) :
    ∃ m, table.maximum = some m ∧ m.checkpoint = v := by
  refine Option.map_eq_some_iff.mp ?_
  have hkafka : readType ≠ .kafka := by rcases hread with rfl | rfl | rfl <;> decide
  simp only [InitOperator.fetchCheckpointTo, if_neg hkafka, SourceConfig.checkpointColumn] at h
  split at h
  · simp at h
  · simp at h
  · rename_i column hcolumn hnonempty
    have hgetD : cfg.checkpointColumn.getD [] = column := by rw [hnonempty, Option.getD_some]
    have hmax : InitOperator.nativeMax readType (.table cfg) (noSqlNative cfg table) column =
        .ok (some v) := by
      cases hmax : InitOperator.nativeMax readType (.table cfg) (noSqlNative cfg table) column with
      | ok w => exact congrArg Except.ok (by simpa [hmax, InitOperator.swallow] using h)
      | error e => simp [hmax, InitOperator.swallow] at h
    rw [← hgetD] at hmax
    have hraw : InitOperator.parseRow (table.maximum.map ColumnValue.raw) =
        .ok (table.maximum.map ColumnValue.checkpoint) := by
      cases table.maximum with
      | none => rfl
      | some m => exact ColumnValue.parseCheckpoint_raw m
    rcases hread with rfl | rfl | rfl
    · simp only [InitOperator.nativeMax, InitOperator.maxMongodb, noSqlNative, if_true, ok_bind,
        hraw] at hmax
      exact Except.ok.inj hmax
    · exact (maxDynamodb_eq hmax).symm
    · have hrow : InitOperator.parseRow (some (table.maximum.elim .none ColumnValue.raw)) =
          .ok (table.maximum.map ColumnValue.checkpoint) := by
        cases table.maximum with
        | none => rfl
        | some m => exact ColumnValue.parseCheckpoint_raw m
      simp only [InitOperator.nativeMax, InitOperator.maxCassandra, noSqlNative, if_true, ok_bind,
        hrow] at hmax
      exact Except.ok.inj hmax

/-! ### The reads -/

section Read

variable {kind : ColumnKind} {readType : ReadAdapterType} {cfg : TableSourceConfig}
  {custom : Text → List Row → Except PyExc (List Row)} {table : Table kind}
  {checkpointFrom checkpointTo : Option CheckpointValue} {batch : List Row}

/-- A falsy checkpoint makes no filter. -/
theorem filterLiteral_of_falsy {column : Option Text}
    (h : truthyCheckpoint checkpointFrom = false) :
    filterLiteral column checkpointFrom = .ok none := by
  unfold filterLiteral
  split
  · rw [h]
    rfl
  · rfl

/-- A truthy checkpoint makes a filter of its column. -/
theorem exists_filterLiteral {column : Option Text} (hcolumn : column.getD [] ≠ [])
    {v : CheckpointValue} (hv : truthyCheckpoint (some v) = true) {literal : Option (Text × Text)}
    (h : filterLiteral column (some v) = .ok literal) :
    ∃ text, v.format = .ok text ∧ literal = some (column.getD [], text) := by
  obtain ⟨c, name, hcons⟩ := List.exists_cons_of_ne_nil hcolumn
  simp only [filterLiteral, hcons, hv, if_true] at h
  obtain ⟨text, htext, rfl⟩ := map_eq_ok_iff.mp h
  exact ⟨text, htext, by rw [hcons]⟩

/-- Without a truthy checkpoint all rows are kept. -/
theorem filterAfterLoad_of_falsy {column : Option Text}
    (hfalsy : truthyCheckpoint checkpointFrom = false) (rows : List Row) :
    filterAfterLoad column checkpointFrom rows = .ok rows := by
  rw [filterAfterLoad, filterLiteral_of_falsy hfalsy]
  rfl

/-- A read from a falsy checkpoint gives all rows. -/
theorem noSqlRead_of_falsy (hquery : cfg.query.getD [] = [])
    (hfalsy : truthyCheckpoint checkpointFrom = false)
    (h : noSqlRead readType cfg custom table checkpointFrom checkpointTo = .ok batch) :
    batch = table.rows := by
  have hload : load readType cfg custom table.rows checkpointFrom = .ok table.rows := by
    unfold load
    split
    · rw [aggregationPipeline, filterLiteral_of_falsy hfalsy, ok_bind, hquery]
      rfl
    · rfl
  rw [noSqlRead, hload, ok_bind, filterAfterLoad_of_falsy hfalsy] at h
  exact (Except.ok.inj h).symm

/-- The filter of the DataFrame lets exactly what is above the checkpoint through. -/
theorem dataFrameFilter_eq {w : ColumnValue} {row : Row} (hrow : kind.holds row.value = true)
    (hw : kind.holds w = true) {text : Text} (htext : w.checkpoint.format = .ok text) :
    dataFrameFilter text row = decide (w.rank < row.rank) := by
  have hcast : castLiteral row.value text = some w.rank := by
    cases hvalue : row.value <;> cases w
    case int.int n m =>
      simp only [ColumnValue.checkpoint, CheckpointValue.format, intStr] at htext
      split at htext
      · obtain rfl := Except.ok.inj htext
        exact parseSigned_intText m
      · simp at htext
    case timestamp.timestamp d e =>
      obtain rfl := Except.ok.inj htext
      simp [castLiteral, fromisoformat_isoformat, ColumnValue.rank]
    all_goals cases kind <;> simp [ColumnKind.holds, hvalue] at hrow hw
  rw [dataFrameFilter, hcast]

/-- DynamoDB and Cassandra give every row above the checkpoint. -/
theorem mem_noSqlRead (hcolumn : cfg.checkpointColumn.getD [] ≠ [])
    (hread : readType ≠ .nosql) {low : ColumnValue} (hlow : kind.holds low = true)
    (h : noSqlRead readType cfg custom table (some low.checkpoint) checkpointTo = .ok batch)
    {row : Row} (hrow : row ∈ table.rows) (hlt : low.rank < row.rank) : row ∈ batch := by
  rw [noSqlRead, load, if_neg hread, ok_bind] at h
  cases htruthy : truthyCheckpoint (some low.checkpoint) with
  | false =>
    rw [filterAfterLoad_of_falsy htruthy] at h
    obtain rfl := Except.ok.inj h
    exact hrow
  | true =>
    obtain ⟨literal, hliteral, h⟩ := bind_eq_ok_iff.mp h
    obtain rfl := Except.ok.inj h
    obtain ⟨text, htext, rfl⟩ := exists_filterLiteral hcolumn htruthy hliteral
    refine List.mem_filter.mpr ⟨hrow, ?_⟩
    rw [dataFrameFilter_eq (table.typed row hrow) hlow htext]
    exact decide_eq_true hlt

/-- **MongoDB gives no row at all** when the checkpoint is truthy: the operand of `$gt` is a
string, and no field holds one. -/
theorem noSqlRead_mongodb (hcolumn : cfg.checkpointColumn.getD [] ≠ [])
    (hquery : cfg.query.getD [] = []) {v : CheckpointValue} (hv : truthyCheckpoint (some v) = true)
    (h : noSqlRead .nosql cfg custom table (some v) checkpointTo = .ok batch) : batch = [] := by
  obtain ⟨rows, hload, h⟩ := bind_eq_ok_iff.mp h
  obtain ⟨literal, hliteral, h⟩ := bind_eq_ok_iff.mp h
  obtain rfl := Except.ok.inj h
  obtain ⟨text, htext, rfl⟩ := exists_filterLiteral hcolumn hv hliteral
  rw [load, if_pos rfl, aggregationPipeline, hliteral, ok_bind, hquery] at hload
  have hmatch : ∀ row : Row, row.value.bson.gt (.string text) = false := by
    intro row
    cases row.value <;> rfl
  have hrows : table.rows.filter (fun row => row.value.bson.gt (.string text)) = rows :=
    Except.ok.inj hload
  rw [← hrows]
  simp [hmatch]

end Read

end BatchIngestion
