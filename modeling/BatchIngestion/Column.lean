import BatchIngestion.Checkpoint
import Mathlib.Data.List.MinMax

/-!
# Checkpoint columns

The columns whose maximum is the checkpoint of a table: integers, naive timestamps
and timestamps with an offset. The order of a column is the order of ranks, an
integer for each value. A table only holds values of the kind of its column.
-/

namespace BatchIngestion

open Python

/-- A value of a checkpoint column. -/
inductive ColumnValue
  /-- An integer. -/
  | int (value : ℤ)
  /-- A timestamp. -/
  | timestamp (value : DateTime)
  deriving DecidableEq

/-- The place of a checkpoint in the order of its column. -/
def CheckpointValue.rank : CheckpointValue → ℤ
  | .int n => n
  | .datetime d => d.instant
  | .str _ => 0

/-- The kind of a checkpoint column. -/
inductive ColumnKind
  /-- Integers. -/
  | integer
  /-- Timestamps without an offset. -/
  | naive
  /-- Timestamps with an offset. -/
  | aware
  deriving DecidableEq

/-- A column of a kind holds a value. -/
def ColumnKind.holds : ColumnKind → ColumnValue → Bool
  | .integer, .int _ => true
  | .naive, .timestamp d => d.offset.isNone
  | .aware, .timestamp d => d.offset.isSome
  | _, _ => false

namespace ColumnValue

/-- The place of a value in the order of its column. -/
def rank : ColumnValue → ℤ
  | .int n => n
  | .timestamp d => d.instant

/-- The checkpoint of a value. -/
def checkpoint : ColumnValue → CheckpointValue
  | .int n => .int n
  | .timestamp d => .datetime d

/-- What a driver reports for a value. -/
def raw : ColumnValue → RawValue
  | .int n => .int n
  | .timestamp d => .datetime d

/-- A value is strictly greater than a checkpoint of its type. -/
def exceeds : ColumnValue → CheckpointValue → Bool
  | .int n, .int m => decide (m < n)
  | .timestamp d, .datetime e => decide (e.instant < d.instant)
  | _, _ => false

/-- Parsing what a driver reports gives the checkpoint. -/
@[simp] theorem parseCheckpoint_raw (v : ColumnValue) :
    parseCheckpoint v.raw = .ok (some v.checkpoint) := by
  cases v <;> rfl

/-- Different values have different checkpoints. -/
theorem checkpoint_injective {v w : ColumnValue} (h : v.checkpoint = w.checkpoint) : v = w := by
  cases v <;> cases w <;> simp_all [checkpoint]

/-- Column values are stable checkpoints. -/
theorem checkpoint_stable (v : ColumnValue) : v.checkpoint.Stable := by
  cases v <;> trivial

/-- The checkpoint of a value has its rank. -/
@[simp] theorem rank_checkpoint (v : ColumnValue) : v.checkpoint.rank = v.rank := by
  cases v <;> rfl

/-- What exceeds a checkpoint ranks above it. -/
theorem rank_lt_of_exceeds {v : ColumnValue} {w : CheckpointValue} (h : v.exceeds w = true) :
    w.rank < v.rank := by
  cases v <;> cases w <;> simp_all [exceeds, CheckpointValue.rank, rank]

end ColumnValue

/-- A row version: its contents, identified by a number, and its checkpoint column. -/
structure Row where
  /-- The contents. -/
  version : ℕ
  /-- The value of the checkpoint column. -/
  value : ColumnValue
  deriving DecidableEq

/-- The place of a row in the order of the checkpoint column. -/
def Row.rank (row : Row) : ℤ := row.value.rank

/-- The rows of a table with a checkpoint column of a kind. -/
structure Table (kind : ColumnKind) where
  /-- The rows. -/
  rows : List Row
  /-- The column holds values of its kind. -/
  typed : ∀ row ∈ rows, kind.holds row.value = true

namespace Table

variable {kind : ColumnKind}

/-- The maximum of the checkpoint column, `none` for an empty table. -/
def maximum (table : Table kind) : Option ColumnValue :=
  (table.rows.foldl (List.argAux fun b c => c.rank < b.rank) none).map Row.value

/-- Rows are inserted with values strictly greater than every reported one; rows may
disappear. -/
def inserts (reported : List CheckpointValue) (table next : Table kind) : Bool :=
  next.rows.all fun row =>
    decide (row ∈ table.rows) || reported.all fun v => row.value.exceeds v

/-- The maximum is the value of a row, and no row ranks higher. -/
theorem maximum_spec {table : Table kind} {v : ColumnValue} (h : table.maximum = some v) :
    kind.holds v = true ∧ ∀ row ∈ table.rows, row.rank ≤ v.rank := by
  obtain ⟨row, hrow, rfl⟩ := Option.map_eq_some_iff.mp h
  exact ⟨table.typed row (List.argmax_mem hrow), fun r hr => List.le_of_mem_argmax hr hrow⟩

/-- An inserted row was there before or exceeds every reported value. -/
theorem inserts_iff {reported : List CheckpointValue} {table next : Table kind} :
    inserts reported table next = true ↔
      ∀ row ∈ next.rows, row ∈ table.rows ∨ ∀ v ∈ reported, row.value.exceeds v = true := by
  simp [inserts]

end Table

end BatchIngestion
