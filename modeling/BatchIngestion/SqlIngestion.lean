import BatchIngestion.Landing
import BatchIngestion.SqlAdapter

/-!
# Incremental SQL ingestion

The results about pipelines with a SQL or MySQL source, a checkpoint column of integers
or naive timestamps and no custom query: overlapping runs skip no row.
-/

namespace BatchIngestion

open Python Library

variable {ι : Type} {kind : ColumnKind} [DecidableEq ι] {readType : ReadAdapterType}
  {cfg : TableSourceConfig} {countRecords : Bool}
  {custom : Text → List Row → Except PyExc (List Row)}

/-- The source reports the maximum of its table. -/
theorem reportsMaximum_sqlSource (hcfg : cfg.Incremental)
    (hread : readType = .sql ∨ readType = .mysql) :
    (sqlSource readType cfg countRecords custom :
      Source (Table kind) (List Row)).ReportsMaximum where
  maximum {table} _ hv :=
    Option.map_eq_some_iff.mp ((fetchCheckpointTo_sqlNative hcfg hread table).symm.trans hv)
  not_path := rfl

/-- A read gives every row of its window. -/
theorem readsWindow_sqlSource (hcfg : cfg.Incremental) (hkind : kind ≠ .aware) (table : Table kind)
    (log : List (ι × Action (Table kind) (List Row))) (i : ι) :
    ReadsWindow kind (sqlSource readType cfg countRecords custom) table log i := by
  intro f high b hfrom hto hheld hhigh hread row hrow hwindow
  refine .inl ?_
  cases f with
  | none =>
    rw [sqlRead_full hcfg (.inl rfl) hread]
    exact hrow
  | some v =>
    obtain ⟨low, hlow, rfl⟩ := hheld v rfl
    rw [sqlRead_window hcfg hkind hlow hhigh hread]
    simp [hrow, hwindow.1 low rfl, hwindow.2]

/-- **Overlapping runs skip no row.** The runs of one DAG over a SQL source start with no
stored checkpoint and interleave arbitrarily; rows are inserted above everything that was
reported so far and may disappear; every step may raise and be retried. In every reachable
state, every present row up to the stored checkpoint has been written to the sink. -/
theorem sqlIngestion_complete (hread : readType = .sql ∨ readType = .mysql)
    (hcfg : cfg.Incremental) (hkind : kind ≠ .aware) {dagId : Text} {info : ι → RunInfo}
    {table : Table kind} {store : Text → Option Text} (hstore : store dagId = none)
    {es : List (Event ι (Table kind))} {S : State ι (Table kind) (List Row)}
    (h : exec (DagFactory.oneDag dagId (sqlSource readType cfg countRecords custom) info
        Table.inserts).step
      (State.start (DagFactory.oneDag dagId (sqlSource readType cfg countRecords custom) info
        Table.inserts) table store) es = some S) :
    S.Complete dagId :=
  State.complete_of_evaluatesWindow (reportsMaximum_sqlSource hcfg hread) hstore
    (along_of_forall fun _ _ i _ => readsWindow_sqlSource hcfg hkind _ _ i) h

/-- Two uneventful runs land both rows. -/
theorem ordersSystem_complete :
    ∃ S, exec ordersSystem.step oneOrder twoOrders = some S ∧
      S.store "orders".toList = some "12".toList ∧ S.Complete "orders".toList := by
  have hstored : ((exec ordersSystem.step oneOrder twoOrders).bind fun S =>
      S.store "orders".toList) = some "12".toList := by decide +kernel
  obtain ⟨S, hS, htext⟩ := Option.bind_eq_some_iff.mp hstored
  exact ⟨S, hS, htext, sqlIngestion_complete (.inl rfl) incremental_ordersById (by decide) rfl hS⟩

end BatchIngestion
