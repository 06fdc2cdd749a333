import BatchIngestion.Landing
import BatchIngestion.NoSqlAdapter
import BatchIngestion.Sequential
import BatchIngestion.SqlAdapter

/-!
# Incremental NoSQL ingestion

DynamoDB and Cassandra sources skip no document. A MongoDB source skips every document
that a run with a truthy `checkpoint_from` would have to read: the run reads nothing, and
its `checkpoint_to` is saved all the same.
-/

namespace BatchIngestion

open Python Library

variable {ι : Type} {kind : ColumnKind} [DecidableEq ι]

/-- A read with a truthy `checkpoint_from` has nothing to match: every present document of
the window of the run has been written already. -/
def NothingToMatch (s : State ι (Table kind) (List Row)) (e : Event ι (Table kind)) : Prop :=
  ∀ i, s.Performs e i .countRecords ∨ s.Performs e i .scan →
    ∀ f (high : ColumnValue), lastFrom s.log i = some f →
    lastTo s.log i = some (some high.checkpoint) → truthyCheckpoint f = true →
    ∀ row ∈ s.source.rows, InWindow f high row → row ∈ written s.log

section Runs

variable {readType : ReadAdapterType} {cfg : TableSourceConfig} {countRecords : Bool}
  {custom : Text → List Row → Except PyExc (List Row)}

/-- The source reports the maximum of its collection. -/
theorem reportsMaximum_noSqlSource
    (hread : readType = .nosql ∨ readType = .dynamodb ∨ readType = .cassandra) :
    (noSqlSource readType cfg countRecords custom :
      Source (Table kind) (List Row)).ReportsMaximum where
  maximum hv := maximum_of_fetchCheckpointTo_noSqlNative hread hv
  not_path := rfl

/-- A read gives every row of its window, unless MongoDB has something to match. -/
theorem readsWindow_noSqlSource (hcolumn : cfg.checkpointColumn.getD [] ≠ [])
    (hquery : cfg.query.getD [] = []) {table : Table kind}
    {log : List (ι × Action (Table kind) (List Row))} {i : ι}
    (hmongo : readType = .nosql → ∀ f (high : ColumnValue), lastFrom log i = some f →
      lastTo log i = some (some high.checkpoint) → truthyCheckpoint f = true →
      ∀ row ∈ table.rows, InWindow f high row → row ∈ written log) :
    ReadsWindow kind (noSqlSource readType cfg countRecords custom) table log i := by
  intro f high b hfrom hto hheld hhigh hread row hrow hwindow
  have hread : noSqlRead readType cfg custom table f (some high.checkpoint) = .ok b := hread
  cases htruthy : truthyCheckpoint f with
  | false =>
    have hb : b = table.rows := noSqlRead_of_falsy hquery htruthy hread
    exact .inl (hb ▸ hrow)
  | true =>
    by_cases hnosql : readType = .nosql
    · exact .inr (hmongo hnosql f high hfrom hto htruthy row hrow hwindow)
    · cases f with
      | none => simp [truthyCheckpoint] at htruthy
      | some v =>
        obtain ⟨low, hlow, rfl⟩ := hheld v rfl
        exact .inl (mem_noSqlRead hcolumn hnosql hlow hread hrow (hwindow.1 low rfl))

/-- **When NoSQL ingestion skips no document.** The runs of one DAG over a MongoDB, DynamoDB
or Cassandra source start with no stored checkpoint; documents are inserted above everything
that was reported so far and may disappear; every step may raise and be retried. As long as
no MongoDB read with a truthy `checkpoint_from` has anything to match, every present document
up to the stored checkpoint has been written to the sink. -/
theorem noSqlIngestion_complete
    (hread : readType = .nosql ∨ readType = .dynamodb ∨ readType = .cassandra)
    (hcolumn : cfg.checkpointColumn.getD [] ≠ []) (hquery : cfg.query.getD [] = [])
    {dagId : Text} {info : ι → RunInfo} {table : Table kind} {store : Text → Option Text}
    (hstore : store dagId = none) {es : List (Event ι (Table kind))}
    {S : State ι (Table kind) (List Row)}
    (hmongo : readType = .nosql →
      Along (DagFactory.oneDag dagId (noSqlSource readType cfg countRecords custom) info
          Table.inserts).step NothingToMatch
        (State.start (DagFactory.oneDag dagId (noSqlSource readType cfg countRecords custom) info
          Table.inserts) table store) es)
    (h : exec (DagFactory.oneDag dagId (noSqlSource readType cfg countRecords custom) info
        Table.inserts).step
      (State.start (DagFactory.oneDag dagId (noSqlSource readType cfg countRecords custom) info
        Table.inserts) table store) es = some S) :
    S.Complete dagId := by
  refine State.complete_of_evaluatesWindow (reportsMaximum_noSqlSource hread) hstore ?_ h
  by_cases hnosql : readType = .nosql
  · exact (hmongo hnosql).mono fun s e hcond i hperforms =>
      readsWindow_noSqlSource hcolumn hquery fun _ => hcond i hperforms
  · exact along_of_forall fun s e i _ =>
      readsWindow_noSqlSource hcolumn hquery fun heq => absurd heq hnosql

end Runs

/-! ### MongoDB -/

/-- No read starts from a truthy checkpoint. -/
def startsFalsy (s : State ι (Table kind) (List Row)) : Event ι (Table kind) → Bool
  | .perform i _ =>
    match (s.runs i).todo.head? with
    | some .countRecords | some .scan => (lastFrom s.log i).all fun f => !truthyCheckpoint f
    | _ => true
  | _ => true

/-- A falsy checkpoint matches nothing. -/
theorem nothingToMatch_of_startsFalsy {s : State ι (Table kind) (List Row)}
    {e : Event ι (Table kind)} (h : startsFalsy s e = true) : NothingToMatch s e := by
  rintro i hperforms f high hfrom - htruthy
  have hfalsy : (lastFrom s.log i).all (fun f => !truthyCheckpoint f) = true := by
    rcases hperforms with ⟨outside, rest, rfl, -, htodo⟩ | ⟨outside, rest, rfl, -, htodo⟩ <;>
      simpa [startsFalsy, htodo] using h
  rw [hfrom, Option.all_some, htruthy] at hfalsy
  simp at hfalsy

/-- A collection that is read by its `id`. -/
def eventsById : TableSourceConfig where
  credentialRef := "nosql".toList
  extra := []
  readOptions := []
  host := "db".toList
  port := 27017
  database := "shop".toList
  schema := []
  table := "events".toList
  query := none
  checkpointColumn := some "id".toList

/-- A NoSQL source of the collection. -/
def eventsSource (readType : ReadAdapterType) : Source (Table .integer) (List Row) :=
  noSqlSource readType eventsById false fun _ _ => .error (.external "no custom query")

/-- The runs of the DAG `events`, numbered. -/
def eventsSystem (readType : ReadAdapterType) : System ℕ (Table .integer) (List Row) :=
  DagFactory.oneDag "events".toList (eventsSource readType) (fun _ => ⟨[], [], []⟩) Table.inserts

/-- The events of two uneventful runs, with a document inserted in between. -/
def twoEvents (readType : ReadAdapterType) : List (Event ℕ (Table .integer)) :=
  (eventsSource readType).uneventful 1 .up ++ [.source (Table.ofInts [10, 20])] ++
    (eventsSource readType).uneventful 2 .up

/-- One document, and no stored checkpoint. -/
def oneEvent (readType : ReadAdapterType) : State ℕ (Table .integer) (List Row) :=
  State.start (eventsSystem readType) (Table.ofInts [10]) fun _ => none

/-- Two runs over a DynamoDB source land both documents, and the initial load of a MongoDB source
lands its document. -/
theorem noSqlIngestion_complete_twoEvents :
    (∃ S, exec (eventsSystem .dynamodb).step (oneEvent .dynamodb) (twoEvents .dynamodb) = some S ∧
      S.store "events".toList = some "20".toList ∧ S.Complete "events".toList) ∧
    ∃ S, exec (eventsSystem .nosql).step (oneEvent .nosql)
        ((eventsSource .nosql).uneventful 1 .up) = some S ∧
      S.store "events".toList = some "10".toList ∧ S.Complete "events".toList := by
  have hcolumn : eventsById.checkpointColumn.getD [] ≠ [] := by
    have hid : "id".toList ≠ [] := by simp
    exact hid
  constructor
  · have hstored : ((exec (eventsSystem .dynamodb).step (oneEvent .dynamodb)
        (twoEvents .dynamodb)).bind fun S => S.store "events".toList) = some "20".toList := by
      decide +kernel
    obtain ⟨S, hS, htext⟩ := Option.bind_eq_some_iff.mp hstored
    exact ⟨S, hS, htext, noSqlIngestion_complete (.inr (.inl rfl)) hcolumn rfl rfl
      (fun hnosql => by cases hnosql) hS⟩
  · have hstored : ((exec (eventsSystem .nosql).step (oneEvent .nosql)
        ((eventsSource .nosql).uneventful 1 .up)).bind fun S => S.store "events".toList) =
        some "10".toList := by decide +kernel
    obtain ⟨S, hS, htext⟩ := Option.bind_eq_some_iff.mp hstored
    have hfalsy : checkAlong (eventsSystem .nosql).step startsFalsy (oneEvent .nosql)
        ((eventsSource .nosql).uneventful 1 .up) = true := by decide +kernel
    exact ⟨S, hS, htext, noSqlIngestion_complete (.inl rfl) hcolumn rfl rfl
      (fun _ => along_of_checkAlong (fun _ _ => nothingToMatch_of_startsFalsy) hfalsy) hS⟩

/-- Two runs over a MongoDB source that do not overlap: the second one reads nothing and
saves 20, and the document 20 is not in the sink. -/
theorem noSqlIngestion_skips_mongodb :
    ∃ S, exec (eventsSystem .nosql).step (oneEvent .nosql) (twoEvents .nosql) = some S ∧
      exec nonOverlapping [] (twoEvents .nosql) = some [2, 1] ∧
      S.store "events".toList = some "20".toList ∧ ¬ S.Complete "events".toList := by
  have hrun : ((exec (eventsSystem .nosql).step (oneEvent .nosql) (twoEvents .nosql)).map fun S =>
      (S.store "events".toList, decide ((⟨0, .int 20⟩ : Row) ∈ S.source.rows),
        S.log.all fun entry => match entry.2 with
          | .landed b => decide ((⟨0, .int 20⟩ : Row) ∉ b)
          | _ => true)) = some (some "20".toList, true, true) := by decide +kernel
  obtain ⟨S, hS, heq⟩ := Option.map_eq_some_iff.mp hrun
  obtain ⟨hstored, hrow⟩ := Prod.mk.inj heq
  obtain ⟨hpresent, hlanded⟩ := Prod.mk.inj hrow
  refine ⟨S, hS, by decide +kernel, hstored, fun hcomplete => ?_⟩
  obtain ⟨w, hheld, hparse, hcovered⟩ := hcomplete _ hstored
  have hw : w = .int 20 := ColumnValue.checkpoint_injective
    (hparse.symm.trans (by decide +kernel))
  subst hw
  obtain ⟨i, b, hb, hmem⟩ := hcovered _ (of_decide_eq_true hpresent) le_rfl
  have hnot := List.all_eq_true.mp hlanded _ hb
  exact absurd hmem (of_decide_eq_true hnot)

end BatchIngestion
