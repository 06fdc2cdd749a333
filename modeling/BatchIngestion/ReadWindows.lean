import BatchIngestion.NoSqlAdapter
import BatchIngestion.SqlAdapter

/-!
# The checkpoint windows of the read paths

Three read paths filter by a checkpoint column: the SQL query, the DataFrame filter of the
NoSQL adapters, and that of `FileAdapter.read`. The SQL query has a window only when both
checkpoints are there. The filters test the truth of `checkpoint_from`, so that zero counts
as missing, and they have no upper bound.
-/

namespace BatchIngestion

open Python Library

/-! ### File sources -/

/-- The DataFrame of `FileAdapter.read`, evaluated on the rows of the files. The maximum that
it computes afterwards changes the adapter and not the DataFrame. -/
def fileRead {kind : ColumnKind} (cfg : PathSourceConfig) (table : Table kind)
    (checkpointFrom _checkpointTo : Option CheckpointValue) : Except PyExc (List Row) :=
  filterAfterLoad cfg.checkpointColumn checkpointFrom table.rows

/-- The NoSQL adapters without a pipeline filter as file sources do. -/
theorem noSqlRead_eq_filterAfterLoad {kind : ColumnKind} {readType : ReadAdapterType}
    (hread : readType ≠ .nosql) (cfg : TableSourceConfig)
    (custom : Text → List Row → Except PyExc (List Row)) (table : Table kind)
    (checkpointFrom checkpointTo : Option CheckpointValue) :
    noSqlRead readType cfg custom table checkpointFrom checkpointTo =
      filterAfterLoad cfg.checkpointColumn checkpointFrom table.rows := by
  rw [noSqlRead, load, if_neg hread, ok_bind]

section Filter

variable {column : Option Text} {table : Table .integer} {batch : List Row} {low : ℤ}

/-- A nonzero checkpoint filters the rows above it. -/
theorem filterAfterLoad_int (hcolumn : column.getD [] ≠ []) (hlow : low ≠ 0)
    (h : filterAfterLoad column (some (.int low)) table.rows = .ok batch) :
    batch = table.rows.filter fun row => low < row.rank := by
  have htruthy : truthyCheckpoint (some (.int low)) = true := bne_iff_ne.mpr hlow
  obtain ⟨literal, hliteral, h⟩ := bind_eq_ok_iff.mp h
  obtain rfl := Except.ok.inj h
  obtain ⟨text, htext, rfl⟩ := exists_filterLiteral hcolumn htruthy hliteral
  exact List.filter_congr fun row hrow =>
    dataFrameFilter_eq (w := .int low) (table.typed row hrow) rfl htext

end Filter

/-! ### The read paths -/

/-- The read paths with a checkpoint column of integers. -/
inductive ReadPath
  /-- `SQLAdapter.read`, with the evaluation of custom queries by the server. -/
  | sql (cfg : TableSourceConfig) (custom : Text → List Row → Except PyExc (List Row))
  /-- `NoSQLAdapter.read` of the DynamoDB adapter. -/
  | dynamodb (cfg : TableSourceConfig)
  /-- `NoSQLAdapter.read` of the Cassandra adapter. -/
  | cassandra (cfg : TableSourceConfig)
  /-- `FileAdapter.read`. -/
  | file (cfg : PathSourceConfig)

namespace ReadPath

/-- The rows that a read gives. -/
def read (table : Table .integer) (checkpointFrom checkpointTo : Option CheckpointValue) :
    ReadPath → Except PyExc (List Row)
  | .sql cfg custom => sqlRead cfg custom table checkpointFrom checkpointTo
  | .dynamodb cfg =>
    noSqlRead .dynamodb cfg (fun _ rows => .ok rows) table checkpointFrom checkpointTo
  | .cassandra cfg =>
    noSqlRead .cassandra cfg (fun _ rows => .ok rows) table checkpointFrom checkpointTo
  | .file cfg => fileRead cfg table checkpointFrom checkpointTo

/-- The path has a checkpoint column, and no custom query where it would take one. -/
def Incremental : ReadPath → Prop
  | .sql cfg _ => cfg.Incremental
  | .dynamodb cfg | .cassandra cfg => cfg.checkpointColumn.getD [] ≠ []
  | .file cfg => cfg.checkpointColumn.getD [] ≠ []

/-- The rows that fall out of the window by the way a path tests and bounds it: without a
`checkpoint_from` the SQL query has no upper bound, and the other paths never have one and
take zero for a missing `checkpoint_from`. -/
def Fits (rows : List Row) (checkpointFrom : Option ℤ) (checkpointTo : ℤ) : ReadPath → Prop
  | .sql _ _ => checkpointFrom = none → ∀ row ∈ rows, row.rank ≤ checkpointTo
  | .dynamodb _ | .cassandra _ | .file _ =>
    (∀ row ∈ rows, (∀ low ∈ checkpointFrom, low < row.rank) → row.rank ≤ checkpointTo) ∧
      (checkpointFrom = some 0 → ∀ row ∈ rows, 0 < row.rank)

end ReadPath

/-- The rows of a batch lie in the window: none is above `checkpoint_to`, and none is at or
below a `checkpoint_from` that is there. -/
structure HonoursWindow (checkpointFrom : Option ℤ) (checkpointTo : ℤ) (batch : List Row) :
    Prop where
  /-- The upper limit of the run. -/
  upper : ∀ row ∈ batch, row.rank ≤ checkpointTo
  /-- The rows of earlier runs are left out. -/
  lower : ∀ low ∈ checkpointFrom, ∀ row ∈ batch, low < row.rank

section Windows

variable {table : Table .integer} {batch : List Row} {checkpointFrom : Option ℤ}
  {checkpointTo : ℤ}

/-- The window of a SQL query. -/
theorem honoursWindow_sqlRead_iff {cfg : TableSourceConfig} (hcfg : cfg.Incremental)
    {custom : Text → List Row → Except PyExc (List Row)}
    (h : sqlRead cfg custom table (checkpointFrom.map .int) (some (.int checkpointTo)) =
      .ok batch) :
    HonoursWindow checkpointFrom checkpointTo batch ↔
      (checkpointFrom = none → ∀ row ∈ table.rows, row.rank ≤ checkpointTo) := by
  cases checkpointFrom with
  | none =>
    obtain rfl := sqlRead_full hcfg (.inl rfl) h
    exact ⟨fun hwindow _ => hwindow.upper, fun hupper => ⟨hupper rfl, by simp⟩⟩
  | some low =>
    have hread : sqlRead cfg custom table (some (ColumnValue.int low).checkpoint)
        (some (ColumnValue.int checkpointTo).checkpoint) = .ok batch := h
    obtain rfl := sqlRead_window hcfg (by decide) rfl rfl hread
    refine ⟨fun _ hnone => by simp at hnone, fun _ => ⟨fun row hrow => ?_, ?_⟩⟩
    · have hbounds := (List.mem_filter.mp hrow).2
      exact (of_decide_eq_true hbounds).2
    · rintro low' hlow row hrow
      obtain rfl : low = low' := Option.some.inj hlow
      have hbounds := (List.mem_filter.mp hrow).2
      exact (of_decide_eq_true hbounds).1

/-- The window of a filter after the load. -/
theorem honoursWindow_filterAfterLoad_iff {column : Option Text} (hcolumn : column.getD [] ≠ [])
    (h : filterAfterLoad column (checkpointFrom.map .int) table.rows = .ok batch) :
    HonoursWindow checkpointFrom checkpointTo batch ↔
      (∀ row ∈ table.rows, (∀ low ∈ checkpointFrom, low < row.rank) → row.rank ≤ checkpointTo) ∧
        (checkpointFrom = some 0 → ∀ row ∈ table.rows, 0 < row.rank) := by
  cases checkpointFrom with
  | none =>
    rw [Option.map_none, filterAfterLoad_of_falsy rfl] at h
    obtain rfl := Except.ok.inj h
    constructor
    · exact fun hwindow => ⟨fun row hrow _ => hwindow.upper row hrow, by simp⟩
    · exact fun hfits => ⟨fun row hrow => hfits.1 row hrow (by simp), by simp⟩
  | some low =>
    by_cases hlow : low = 0
    · subst hlow
      rw [Option.map_some, filterAfterLoad_of_falsy rfl] at h
      obtain rfl := Except.ok.inj h
      constructor
      · exact fun hwindow =>
          ⟨fun row hrow _ => hwindow.upper row hrow, fun _ => hwindow.lower 0 rfl⟩
      · rintro ⟨hupper, hlower⟩
        refine ⟨fun row hrow => hupper row hrow fun low hlow => ?_, fun low hlow row hrow => ?_⟩
        all_goals
          obtain rfl : 0 = low := Option.some.inj hlow
          exact hlower rfl row hrow
    · obtain rfl := filterAfterLoad_int hcolumn hlow h
      constructor
      · refine fun hwindow => ⟨fun row hrow habove => ?_, fun hzero => ?_⟩
        · exact hwindow.upper row (List.mem_filter.mpr ⟨hrow, decide_eq_true (habove low rfl)⟩)
        · exact absurd (Option.some.inj hzero) hlow
      · rintro ⟨hupper, -⟩
        have habove {row : Row} (hrow : row ∈ table.rows.filter fun row => low < row.rank) :
            ∀ low' ∈ some low, low' < row.rank := by
          rintro low' ⟨⟩
          exact of_decide_eq_true (List.mem_filter.mp hrow).2
        exact ⟨fun row hrow => hupper row (List.mem_filter.mp hrow).1 (habove hrow),
          fun low' hlow' row hrow => habove hrow low' hlow'⟩

end Windows

/-- **When a read path honours the checkpoint window.** For every read path with a checkpoint
column of integers, every table at read time and every two checkpoints, what a read gives
lies in the window if and only if no row of the table falls out of it: a SQL read without a
`checkpoint_from` needs a table without rows above `checkpoint_to`; the other reads need that
no row above `checkpoint_from` is above `checkpoint_to`, and no row at or below zero when
`checkpoint_from` is zero. -/
theorem read_honoursWindow_iff {path : ReadPath} (hpath : path.Incremental) {table : Table .integer}
    {checkpointFrom : Option ℤ} {checkpointTo : ℤ} {batch : List Row}
    (h : path.read table (checkpointFrom.map .int) (some (.int checkpointTo)) = .ok batch) :
    HonoursWindow checkpointFrom checkpointTo batch ↔
      path.Fits table.rows checkpointFrom checkpointTo := by
  cases path with
  | sql cfg custom => exact honoursWindow_sqlRead_iff hpath h
  | dynamodb cfg | cassandra cfg =>
    rw [ReadPath.read, noSqlRead_eq_filterAfterLoad (by decide)] at h
    exact honoursWindow_filterAfterLoad_iff hpath h
  | file cfg => exact honoursWindow_filterAfterLoad_iff hpath h

/-- The read path of the orders. -/
def ordersPath : ReadPath := .sql ordersById fun _ rows => .ok rows

/-- A second run over the orders reads within its window. -/
theorem read_honoursWindow_orders : HonoursWindow (some 7) 12 [⟨0, .int 12⟩] := by
  have hpath : ordersPath.Incremental := incremental_ordersById
  have hread : ordersPath.read (Table.ofInts [7, 12, 20]) ((some 7).map .int) (some (.int 12)) =
      .ok [⟨0, .int 12⟩] := by decide +kernel
  exact (read_honoursWindow_iff hpath hread).mpr (by simp [ReadPath.Fits, ordersPath])

/-- **The first run has no upper limit**: the row 12 was inserted after the maximum 7 was
computed, and is read. -/
theorem not_honoursWindow_firstRead :
    ∃ batch, ordersPath.read (Table.ofInts [7, 12]) none (some (.int 7)) = .ok batch ∧
      ¬ HonoursWindow none 7 batch := by
  refine ⟨[⟨0, .int 7⟩, ⟨0, .int 12⟩], by decide +kernel, fun hwindow => ?_⟩
  have hupper := hwindow.upper ⟨0, .int 12⟩ (by simp)
  exact absurd hupper (by decide)

end BatchIngestion
