import BatchIngestion.Column
import BatchIngestion.History
import BatchIngestion.Library.Watermark

/-!
# No row is skipped

The runs of one DAG share a table and a row of the store. Every value that is in the
store, and every value that a run in flight has fetched from it, is a watermark of
what has landed: all present rows up to it have been written. A read that is complete
in its window keeps this, whatever the other runs do in the meantime.
-/

namespace BatchIngestion

open Python Library

variable {ι : Type} {kind : ColumnKind}

/-- The row versions that some run has written to the sink. -/
def written (log : List (ι × Action (Table kind) (List Row))) : Set Row :=
  {row | ∃ i b, Landed log i b ∧ row ∈ b}

/-- The row versions of a table. -/
def Table.present (table : Table kind) : Set Row := {row | row ∈ table.rows}

/-- The stored checkpoint of a DAG is a value of its column, and every present row up to it
has been written to the sink by some run. -/
def State.Complete (S : State ι (Table kind) (List Row)) (dagId : Text) : Prop :=
  ∀ text, S.store dagId = some text →
    ∃ w : ColumnValue, kind.holds w = true ∧ parseText text = w.checkpoint ∧
      ∀ row ∈ S.source.rows, row.rank ≤ w.rank → ∃ i b, Landed S.log i b ∧ row ∈ b

/-! ### Watermarks of the sink -/

/-- A reported value of the column up to which everything has been written. -/
def IsWatermark (table : Table kind) (log : List (ι × Action (Table kind) (List Row)))
    (v : CheckpointValue) : Prop :=
  ∃ w : ColumnValue, kind.holds w = true ∧ w.checkpoint = v ∧ v ∈ reportedIn log ∧
    Covered Row.rank table.present (written log) w.rank

variable {table next : Table kind} {log : List (ι × Action (Table kind) (List Row))}

/-- A row stays written. -/
theorem written_cons (i : ι) (a : Action (Table kind) (List Row)) :
    written log ⊆ written ((i, a) :: log) := by
  rintro row ⟨j, b, hb, hrow⟩
  exact ⟨j, b, landed_cons.mpr (.inr hb), hrow⟩

/-- Inserted rows rank above every reported value. -/
theorem Table.fresh_of_inserts (h : Table.inserts (reportedIn log) table next = true) :
    Fresh Row.rank {n | ∃ v ∈ reportedIn log, v.rank = n} table.present next.present := by
  intro row hrow
  refine (Table.inserts_iff.mp h row hrow).imp_right fun hexceeds => ?_
  rintro - ⟨v, hv, rfl⟩
  exact ColumnValue.rank_lt_of_exceeds (hexceeds v hv)

/-- What is covered up to a reported value stays covered when rows are inserted. -/
theorem covered_of_inserts {W : Set Row} {w : ColumnValue}
    (h : Covered Row.rank table.present W w.rank)
    (hinserts : Table.inserts (reportedIn log) table next = true)
    (hw : w.checkpoint ∈ reportedIn log) : Covered Row.rank next.present W w.rank :=
  h.of_fresh (Table.fresh_of_inserts hinserts) ⟨_, hw, w.rank_checkpoint⟩

/-- A watermark survives insertions. -/
theorem IsWatermark.of_inserts {v : CheckpointValue} (h : IsWatermark table log v)
    (hinserts : Table.inserts (reportedIn log) table next = true) : IsWatermark next log v := by
  obtain ⟨w, hheld, rfl, hreported, hcovered⟩ := h
  exact ⟨w, hheld, rfl, hreported, covered_of_inserts hcovered hinserts hreported⟩

/-- A watermark survives every action. -/
theorem IsWatermark.cons {v : CheckpointValue} (h : IsWatermark table log v) (i : ι)
    (a : Action (Table kind) (List Row)) : IsWatermark table ((i, a) :: log) v := by
  obtain ⟨w, hheld, heq, hreported, hcovered⟩ := h
  exact ⟨w, hheld, heq, mem_reportedIn_cons hreported, hcovered.mono (written_cons i a)⟩

/-! ### The invariant -/

/-- A source that reports the maximum of its table, if anything, and is read by Spark. -/
structure Source.ReportsMaximum (source : Source (Table kind) (List Row)) : Prop where
  /-- The maximum query gives the maximum of the column. -/
  maximum : ∀ {table : Table kind} {v : CheckpointValue},
    InitOperator.fetchCheckpointTo source.readType source.config (source.native table) = some v →
    ∃ m, table.maximum = some m ∧ m.checkpoint = v
  /-- The source is no path. -/
  not_path : source.config.isPath = false

/-- Only values of the column are reported. -/
def ReportsHeld (kind : ColumnKind) (log : List (ι × Action (Table kind) (List Row))) : Prop :=
  ∀ v ∈ reportedIn log, ∃ w : ColumnValue, kind.holds w = true ∧ w.checkpoint = v

/-- The window of a read: above the checkpoint it starts from, if there is one, and up to a
value. -/
def InWindow (checkpointFrom : Option CheckpointValue) (high : ColumnValue) (row : Row) : Prop :=
  (∀ low : ColumnValue, checkpointFrom = some low.checkpoint → low.rank < row.rank) ∧
    row.rank ≤ high.rank

variable [DecidableEq ι]

/-- A run reads, with a checkpoint to read up to, every present row of its window that has
not been written yet. -/
def ReadsWindow (kind : ColumnKind) (source : Source (Table kind) (List Row)) (table : Table kind)
    (log : List (ι × Action (Table kind) (List Row))) (i : ι) : Prop :=
  ∀ f high b, lastFrom log i = some f → lastTo log i = some (some high.checkpoint) →
    (∀ v, f = some v → ∃ low : ColumnValue, kind.holds low = true ∧ low.checkpoint = v) →
    kind.holds high = true → source.read table f (some high.checkpoint) = .ok b →
    ∀ row ∈ table.rows, InWindow f high row → row ∈ b ∨ row ∈ written log

/-- What the sink, the store and the runs in flight have to do with each other. -/
structure NoneSkipped (sys : System ι (Table kind) (List Row)) (initial : Text → Option Text)
    (dagId : Text) (table : Table kind) (log : List (ι × Action (Table kind) (List Row))) :
    Prop where
  /-- The tasks are in order. -/
  ordered : WellOrdered sys log
  /-- Only values of the column are reported. -/
  reported_held : ReportsHeld kind log
  /-- Every `checkpoint_from` in flight is a watermark. -/
  from_watermark : ∀ i v, lastFrom log i = some (some v) → IsWatermark table log v
  /-- The batch of a run lacks no row up to its `checkpoint_to`. -/
  batch_covers : ∀ i b (w : ColumnValue), lastBatch log i = some b →
    lastTo log i = some (some w.checkpoint) →
    Covered Row.rank table.present (written log ∪ {row | row ∈ b}) w.rank
  /-- When a batch has landed, all rows up to the `checkpoint_to` of its run have. -/
  landed_covers : ∀ i b (w : ColumnValue), Landed log i b →
    lastTo log i = some (some w.checkpoint) →
    Covered Row.rank table.present (written log) w.rank
  /-- The stored checkpoint is a watermark. -/
  stored_watermark : ∀ text, sys.stored initial log dagId = some text →
    IsWatermark table log (parseText text)

/-- A newly reported value is the maximum of the table. -/
theorem System.Allowed.maximum_of_reported {sys : System ι (Table kind) (List Row)}
    {initial : Text → Option Text} {i : ι} {a : Action (Table kind) (List Row)}
    (h : sys.Allowed initial table log i a) (hsource : (sys.dag i).source.ReportsMaximum)
    {v : CheckpointValue} (hv : v ∈ reportedIn ((i, a) :: log)) :
    (∃ m, table.maximum = some m ∧ m.checkpoint = v) ∨ v ∈ reportedIn log :=
  (h.mem_reportedIn_cases hv).imp_left hsource.maximum

/-- Only values of the column are reported after an allowed action. -/
theorem ReportsHeld.cons {sys : System ι (Table kind) (List Row)} {initial : Text → Option Text}
    {i : ι} {a : Action (Table kind) (List Row)} (h : ReportsHeld kind log)
    (hsource : (sys.dag i).source.ReportsMaximum) (hallowed : sys.Allowed initial table log i a) :
    ReportsHeld kind ((i, a) :: log) := by
  intro v hv
  rcases hallowed.maximum_of_reported hsource hv with ⟨m, hm, rfl⟩ | hv
  · exact ⟨m, (Table.maximum_spec hm).1, rfl⟩
  · exact h v hv

section Steps

variable {sys : System ι (Table kind) (List Row)} {initial : Text → Option Text} {dagId : Text}

/-- Nothing is skipped before the first action. -/
theorem noneSkipped_nil (hinitial : initial dagId = none) (table : Table kind) :
    NoneSkipped sys initial dagId table [] where
  ordered := wellOrdered_nil sys
  reported_held v hv := by simp [reportedIn] at hv
  from_watermark i v hv := by simp [lastFrom] at hv
  batch_covers i b w hb := by simp [lastBatch] at hb
  landed_covers i b w hb := by simp [Landed] at hb
  stored_watermark text htext := by simp [System.stored, hinitial] at htext

/-- Insertions and deletions skip nothing. -/
theorem NoneSkipped.of_inserts (h : NoneSkipped sys initial dagId table log)
    (hinserts : Table.inserts (reportedIn log) table next = true) :
    NoneSkipped sys initial dagId next log where
  ordered := h.ordered
  reported_held := h.reported_held
  from_watermark i v hv := (h.from_watermark i v hv).of_inserts hinserts
  batch_covers i b w hb hto :=
    covered_of_inserts (h.batch_covers i b w hb hto) hinserts (mem_reportedIn_of_lastTo hto)
  landed_covers i b w hb hto :=
    covered_of_inserts (h.landed_covers i b w hb hto) hinserts (mem_reportedIn_of_lastTo hto)
  stored_watermark text htext := (h.stored_watermark text htext).of_inserts hinserts

variable {i j : ι} {a : Action (Table kind) (List Row)}

/-- The row that an init task reads holds a watermark. -/
theorem NoneSkipped.watermark_of_parseRow (h : NoneSkipped sys initial dagId table log)
    {v : CheckpointValue}
    (hrow : InitOperator.parseRow ((sys.stored initial log dagId).map .text) = .ok (some v)) :
    IsWatermark table log v := by
  cases hstored : sys.stored initial log dagId with
  | none => simp [hstored, InitOperator.parseRow] at hrow
  | some text =>
    obtain rfl : parseText text = v := by
      simpa [hstored, InitOperator.parseRow, parseCheckpoint] using hrow
    exact h.stored_watermark text hstored

/-- A complete read of the window above a watermark lacks no row up to its end. -/
theorem NoneSkipped.covers_of_read (h : NoneSkipped sys initial dagId table log)
    {source : Source (Table kind) (List Row)} (hreads : ReadsWindow kind source table log i)
    {f : Option CheckpointValue} {w : ColumnValue} {b : List Row} (hfrom : lastFrom log i = some f)
    (hto : lastTo log i = some (some w.checkpoint))
    (hread : source.read table f (some w.checkpoint) = .ok b) :
    Covered Row.rank table.present (written log ∪ {row | row ∈ b}) w.rank := by
  obtain ⟨w', hheld, hw'⟩ := h.reported_held _ (mem_reportedIn_of_lastTo hto)
  obtain rfl := ColumnValue.checkpoint_injective hw'
  have hwatermark : ∀ v, f = some v → IsWatermark table log v := by
    rintro v rfl
    exact h.from_watermark i v hfrom
  have hwindow := hreads f w' b hfrom hto (fun v hv => by
    obtain ⟨low, hlow, heq, -⟩ := hwatermark v hv
    exact ⟨low, hlow, heq⟩) hheld hread
  cases f with
  | none =>
    intro row hrow hle
    exact (hwindow row hrow ⟨by simp, hle⟩).symm
  | some v =>
    obtain ⟨low, hlow, rfl, -, hcovered⟩ := hwatermark v rfl
    refine (hcovered.mono Set.subset_union_left).raise fun row hrow hlt hle => ?_
    refine (hwindow row hrow ⟨fun low' heq => ?_, hle⟩).symm
    obtain rfl := ColumnValue.checkpoint_injective (Option.some.inj heq)
    exact hlt

/-- **An allowed action skips nothing**, provided a read is complete in its window. -/
theorem NoneSkipped.cons (h : NoneSkipped sys initial dagId table log)
    (hdag : ∀ i, (sys.dag i).dagId = dagId)
    (hsource : ∀ i, (sys.dag i).source.ReportsMaximum)
    (hallowed : sys.Allowed initial table log i a)
    (hreads : ∀ b, a = .read table b → ReadsWindow kind (sys.dag i).source table log i) :
    NoneSkipped sys initial dagId table ((i, a) :: log) where
  ordered := h.ordered.cons hallowed
  reported_held := h.reported_held.cons (hsource i) hallowed
  from_watermark j v hv := by
    refine IsWatermark.cons ?_ i a
    rcases hallowed.lastFrom_cases hv with ⟨rfl, -, hrow⟩ | hv
    · rw [hdag] at hrow
      exact h.watermark_of_parseRow hrow
    · exact h.from_watermark j v hv
  batch_covers j b w hb hto := by
    have hmono : written log ∪ {row | row ∈ b} ⊆ written ((i, a) :: log) ∪ {row | row ∈ b} :=
      Set.union_subset_union_left _ (written_cons i a)
    rcases hallowed.lastBatch_cases hb with ⟨rfl, ha, f, t, hinit, hfrom, ht, hread⟩ | hb
    · rw [hallowed.lastTo_cons hinit, ht] at hto
      obtain rfl := Option.some.inj hto
      exact (h.covers_of_read (hreads b ha) hfrom ht hread).mono hmono
    · rw [hallowed.lastTo_cons (h.ordered.batch_init hb)] at hto
      exact (h.batch_covers j b w hb hto).mono hmono
  landed_covers j b w hb hto := by
    rcases landed_cons.mp hb with ⟨rfl, rfl⟩ | hb
    · cases hallowed with
      | landed hinit hbatch =>
        have hto : lastTo log j = some (some w.checkpoint) :=
          (newest_cons_of_none rfl j j log).symm.trans hto
        refine (h.batch_covers j b w hbatch hto).mono (Set.union_subset (written_cons _ _) ?_)
        exact fun row hrow => ⟨j, b, landed_cons.mpr (.inl ⟨rfl, rfl⟩), hrow⟩
      | copied hinit hpath => exact absurd hpath (by simp [(hsource j).not_path])
    · rw [hallowed.lastTo_cons (h.ordered.landed_init j b hb)] at hto
      exact (h.landed_covers j b w hb hto).mono (written_cons i a)
  stored_watermark text htext := by
    refine IsWatermark.cons ?_ i a
    by_cases ha : ∃ text', a = .saved text'
    · obtain ⟨text', rfl⟩ := ha
      rw [System.stored_saved, hdag, Function.update_self] at htext
      obtain rfl := Option.some.inj htext
      cases hallowed with
      | saved hspark hto htext' =>
        obtain ⟨v, rfl, hv⟩ := exists_of_checkpointText htext'
        obtain ⟨w, hheld, rfl⟩ := h.reported_held v (mem_reportedIn_of_lastTo hto)
        obtain ⟨b, hb⟩ := h.ordered.spark_landed i hspark
        rw [parseText_of_text w.checkpoint_stable hv]
        exact ⟨w, hheld, rfl, mem_reportedIn_of_lastTo hto, h.landed_covers i b w hb hto⟩
    · rw [sys.stored_cons_of_ne initial i (fun text' h' => ha ⟨text', h'⟩)] at htext
      exact h.stored_watermark text htext

end Steps

/-! ### Runs -/

section Runs

variable {dagId : Text} {source : Source (Table kind) (List Row)} {info : ι → RunInfo}
  {store : Text → Option Text} {S : State ι (Table kind) (List Row)}
  {es : List (Event ι (Table kind))}

/-- A run does not evaluate its DataFrame incompletely. -/
def EvaluatesWindow (source : Source (Table kind) (List Row))
    (s : State ι (Table kind) (List Row)) (e : Event ι (Table kind)) : Prop :=
  ∀ i, s.Performs e i .countRecords ∨ s.Performs e i .scan →
    ReadsWindow kind source s.source s.log i

/-- **No row is skipped** while every evaluation of a DataFrame is complete in its window,
for any interleaving of the runs of one DAG. -/
theorem State.complete_of_evaluatesWindow (hsource : source.ReportsMaximum)
    (hstore : store dagId = none)
    (hreads : Along (DagFactory.oneDag dagId source info Table.inserts).step
      (EvaluatesWindow source)
      (State.start (DagFactory.oneDag dagId source info Table.inserts) table store) es)
    (h : exec (DagFactory.oneDag dagId source info Table.inserts).step
      (State.start (DagFactory.oneDag dagId source info Table.inserts) table store) es = some S) :
    S.Complete dagId := by
  have hinv : NoneSkipped (DagFactory.oneDag dagId source info Table.inserts) store dagId
      S.source S.log := by
    refine System.ledger_invariant_along
      (NoneSkipped (DagFactory.oneDag dagId source info Table.inserts) store dagId)
      (noneSkipped_nil hstore table) (fun hinv hmoves => hinv.of_inserts hmoves) ?_ hreads h
    rintro s e i a hinv hcond hallowed hperforms
    refine hinv.cons (fun _ => rfl) (fun _ => hsource) hallowed ?_
    rintro b rfl
    exact hcond i (State.performs_read hperforms)
  intro text htext
  rw [(System.simulates_of_exec h).store_eq] at htext
  obtain ⟨w, hheld, heq, -, hcovered⟩ := hinv.stored_watermark text htext
  exact ⟨w, hheld, heq.symm, fun row hrow hle => hcovered row hrow hle⟩

end Runs

end BatchIngestion
