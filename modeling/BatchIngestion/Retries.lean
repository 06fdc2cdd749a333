import BatchIngestion.Envelope
import BatchIngestion.SparkLog

/-!
# Repeated attempts at the Spark task

The write path of a run is fixed by its context, and the write mode is always to append. An
attempt that saves and then fails leaves its rows in place, so that the rows of a run are stored
once for every attempt whose save completed.
-/

namespace BatchIngestion

open Python Library SparkAction Procedure

variable {ρ : Type} {world : SparkWorld ρ} {sink : SinkAdapter}

/-! ### One save -/

/-- A completed save. -/
def SparkEvent.isSaved : SparkEvent ρ → Bool
  | .saved _ _ _ => true
  | _ => false

/-- A procedure that appends rows to a path once, or raises without it. -/
abbrev AppendsOnce {α : Type} (path : Text) (rows : List ρ) (x : SparkAction ρ α) : Prop :=
  WritesOnce SparkState.stored SparkEvent.isSaved (.saved .append path rows)
    (fun stored => SinkAdapter.saveInto stored .append path rows) x

/-- A write of a sink that appends. -/
theorem SinkAdapter.appendsOnce_write (hmode : sink.writeMode = .append)
    (hschema : sink.schema = none) {path : Text} (hpath : buildWritePath sink.config = .ok path)
    (df : DataFrame ρ) : AppendsOnce path df.rows (sink.write world df) := by
  have hraised (e : PyExc) : (SparkEvent.raised e : SparkEvent ρ).isSaved = false := rfl
  have honError (e : PyExc) : (SparkEvent.onError e : SparkEvent ρ).isSaved = false := rfl
  have hframe : sink.preWrite world df = df := by
    rw [preWrite, hschema]
  refine .onException ?_ fun e => (quiet_onError hraised (honError e)).of_id
  refine .after (quiet_configure hraised _) fun _ => ?_
  refine .after (quiet_shapeFrame hraised).of_id fun _ => .after (.attempt hraised _) fun _ => ?_
  refine .after_of_returns (.attempt hraised _) (Returns.attempt _) fun path' hpath' => ?_
  obtain rfl : path = path' := Except.ok.inj (hpath.symm.trans hpath')
  refine .after (.attempt hraised _) fun _ => .after (.attempt hraised _) fun _ => ?_
  refine .after (.emit rfl) fun _ => .after (.attempt hraised _) fun _ => ?_
  rw [hmode, hframe]
  exact .commit rfl (fun _ => rfl) (quiet_postWrite hraised).of_id

/-- The path that a run writes to. -/
def RunContext.writePath (ctx : RunContext) : Except PyExc Text :=
  buildWritePath ctx.constructSource.constructSink.config

namespace SparkRunOperator

/-- Reading and writing. -/
theorem appendsOnce_readAndWrite (ctx : RunContext) {path : Text}
    (hmode : sink.writeMode = .append) (hschema : sink.schema = none)
    (hpath : buildWritePath sink.config = .ok path) :
    AppendsOnce path world.frame.rows (readAndWrite world ctx sink) := by
  have hraised (e : PyExc) : (SparkEvent.raised e : SparkEvent ρ).isSaved = false := rfl
  refine .after (.attempt hraised _) fun _ => .after (.attempt hraised _) fun _ => ?_
  refine .after (quiet_countRecords hraised _).of_id fun _ => ?_
  refine .after (.attempt hraised _) fun _ => ?_
  exact .before (SinkAdapter.appendsOnce_write hmode hschema hpath _) fun _ =>
    (quiet_unpersist hraised _).of_id

/-- **One attempt** appends the rows to the path of the run once, or raises without it. -/
theorem appendsOnce_execute (op : SparkRunOperator) (dagId runId : Text) {raw : ContextDict}
    {ctx : RunContext} {source : TableSourceConfig} {path : Text}
    (hdecoded : RunContext.fromDict raw = .ok ctx) (htable : ctx.sourceConfig = .table source)
    (hpath : ctx.writePath = .ok path) (hxcom : ∀ raw', world.xcom = .ok (some raw') → raw' = raw) :
    AppendsOnce path world.frame.rows (op.execute world dagId runId) := by
  have hraised (e : PyExc) : (SparkEvent.raised e : SparkEvent ρ).isSaved = false := rfl
  have hsource : ctx.constructSource.sourceConfig = .table source := by
    unfold RunContext.constructSource
    rw [htable]
    cases ctx.readType <;> exact htable
  refine .onException ?_ fun e =>
    (quiet_pushFailureMetric (fun _ => rfl) (fun _ => rfl) _ _ e).of_id
  refine .after_of_returns (quiet_setUp hraised).of_id (returns_setUp op) fun task htask => ?_
  obtain ⟨raw', ctx', hraw, hdecoded', rfl⟩ := htask
  obtain rfl := hxcom raw' hraw
  obtain rfl : ctx' = ctx := Except.ok.inj (hdecoded'.symm.trans hdecoded)
  refine .after (quiet_validateSource hraised _) fun _ => ?_
  refine .after (SinkAdapter.quiet_validateConnection hraised) fun _ => ?_
  simp only [hsource]
  exact appendsOnce_readAndWrite _ rfl rfl hpath

end SparkRunOperator

/-! ### Any number of attempts -/

/-- An attempt: a process with its own session, and what the environment contributes. -/
structure Attempt (ρ : Type) where
  /-- The environment. -/
  world : SparkWorld ρ
  /-- The Hadoop configuration of the process at its start. -/
  hadoopConf : Dict Text Text
  /-- `HADOOP_USER_NAME` of the process at its start. -/
  hadoopUser : Option Text

/-- An attempt at a run: its XCom holds the context of the run, as far as it can be pulled, and
the source has the rows of the run. -/
structure Attempt.OfRun (a : Attempt ρ) (raw : ContextDict) (rows : List ρ) : Prop where
  /-- The context. -/
  xcom : ∀ raw', a.world.xcom = .ok (some raw') → raw' = raw
  /-- The rows. -/
  rows : a.world.frame.rows = rows

namespace SparkRunOperator

variable (op : SparkRunOperator) (dagId runId : Text)

/-- One attempt, on what is stored. -/
def runAttempt (stored : Text → List ρ) (a : Attempt ρ) :
    Outcome PyExc (SparkState ρ) (SparkEvent ρ) Unit :=
  op.execute a.world dagId runId ⟨a.hadoopConf, a.hadoopUser, stored⟩

/-- The outcomes of attempts, each on what the ones before it have stored. -/
def runAttempts (stored : Text → List ρ) :
    List (Attempt ρ) → List (Outcome PyExc (SparkState ρ) (SparkEvent ρ) Unit)
  | [] => []
  | a :: attempts =>
    let outcome := op.runAttempt dagId runId stored a
    outcome :: runAttempts outcome.state.stored attempts

/-- What is stored after attempts. -/
def storedAfter (stored : Text → List ρ) (attempts : List (Attempt ρ)) : Text → List ρ :=
  attempts.foldl (fun stored a => (op.runAttempt dagId runId stored a).state.stored) stored

end SparkRunOperator

/-- An attempt whose save completed. -/
def Library.Outcome.saved (o : Outcome PyExc (SparkState ρ) (SparkEvent ρ) Unit) : Bool :=
  o.log.any SparkEvent.isSaved

namespace SparkRunOperator

variable (op : SparkRunOperator) (dagId runId : Text) {raw : ContextDict} {ctx : RunContext}
  {source : TableSourceConfig} {path : Text} {rows : List ρ}

/-- What an attempt leaves. -/
theorem runAttempt_cases (hdecoded : RunContext.fromDict raw = .ok ctx)
    (htable : ctx.sourceConfig = .table source) (hpath : ctx.writePath = .ok path) {a : Attempt ρ}
    (ha : a.OfRun raw rows) (stored : Text → List ρ) :
    ((op.runAttempt dagId runId stored a).saved = false ∧
      (op.runAttempt dagId runId stored a).log.filter SparkEvent.isSaved = [] ∧
      (op.runAttempt dagId runId stored a).state.stored = stored ∧
      ∃ e, (op.runAttempt dagId runId stored a).result = .error e) ∨
    ((op.runAttempt dagId runId stored a).saved = true ∧
      (op.runAttempt dagId runId stored a).log.filter SparkEvent.isSaved =
        [.saved .append path rows] ∧
      (op.runAttempt dagId runId stored a).state.stored =
        Function.update stored path (stored path ++ rows)) := by
  have honce := op.appendsOnce_execute dagId runId hdecoded htable hpath ha.xcom
    ⟨a.hadoopConf, a.hadoopUser, stored⟩
  rw [ha.rows] at honce
  refine honce.imp (fun ⟨hnil, hstored, hresult⟩ => ⟨?_, hnil, hstored, hresult⟩)
    fun ⟨hone, hstored⟩ => ⟨?_, hone, hstored⟩
  · have hnone := List.filter_eq_nil_iff.mp hnil
    exact List.any_eq_false.mpr hnone
  · have hmem : SparkEvent.saved .append path rows ∈
        (op.runAttempt dagId runId stored a).log.filter SparkEvent.isSaved :=
      hone ▸ List.mem_singleton_self _
    exact List.any_eq_true.mpr ⟨_, (List.mem_filter.mp hmem).1, rfl⟩

/-- Attempts append the rows once for every save. -/
theorem storedAfter_eq (hdecoded : RunContext.fromDict raw = .ok ctx)
    (htable : ctx.sourceConfig = .table source) (hpath : ctx.writePath = .ok path)
    {attempts : List (Attempt ρ)} (h : ∀ a ∈ attempts, a.OfRun raw rows)
    (stored : Text → List ρ) :
    op.storedAfter dagId runId stored attempts = Function.update stored path (stored path ++
      (List.replicate ((op.runAttempts dagId runId stored attempts).countP Outcome.saved)
        rows).flatten) := by
  induction attempts generalizing stored with
  | nil => simp [storedAfter, runAttempts]
  | cons a attempts ih =>
    obtain ⟨ha, hattempts⟩ := List.forall_mem_cons.mp h
    rw [storedAfter, List.foldl_cons, ← storedAfter, ih hattempts, runAttempts]
    rcases runAttempt_cases op dagId runId hdecoded htable hpath ha stored with
      ⟨hsaved, -, hstored, -⟩ | ⟨hsaved, -, hstored⟩
    · rw [List.countP_cons_of_neg (Bool.not_eq_true _ ▸ hsaved), hstored]
    · rw [List.countP_cons_of_pos hsaved, hstored, Function.update_idem, Function.update_self,
        List.replicate_succ, List.flatten_cons, List.append_assoc]

/-- Each attempt saves at most once, and once if it completes. -/
theorem saves_of_mem_runAttempts (hdecoded : RunContext.fromDict raw = .ok ctx)
    (htable : ctx.sourceConfig = .table source) (hpath : ctx.writePath = .ok path)
    {attempts : List (Attempt ρ)} (h : ∀ a ∈ attempts, a.OfRun raw rows)
    {stored : Text → List ρ} {o : Outcome PyExc (SparkState ρ) (SparkEvent ρ) Unit}
    (ho : o ∈ op.runAttempts dagId runId stored attempts) :
    (o.log.filter SparkEvent.isSaved).length ≤ 1 ∧ (o.result = .ok () → o.saved = true) := by
  induction attempts generalizing stored with
  | nil => exact absurd ho List.not_mem_nil
  | cons a attempts ih =>
    obtain ⟨ha, hattempts⟩ := List.forall_mem_cons.mp h
    rcases List.mem_cons.mp ho with rfl | ho
    · rcases runAttempt_cases op dagId runId hdecoded htable hpath ha stored with
        ⟨-, hnil, -, e, he⟩ | ⟨hsaved, hone, -⟩
      · refine ⟨hnil ▸ Nat.zero_le _, fun hok => ?_⟩
        rw [he] at hok
        cases hok
      · exact ⟨hone ▸ le_rfl, fun _ => hsaved⟩
    · exact ih hattempts ho

end SparkRunOperator

/-- Copies of a list are as one copy exactly when there is one, or the list is empty. -/
theorem flatten_replicate_eq_self_iff {α : Type*} {n : ℕ} {l : List α} :
    (List.replicate n l).flatten = l ↔ n = 1 ∨ l = [] := by
  constructor
  · intro h
    have hlength : n * l.length = l.length := by simpa using congrArg List.length h
    rcases Nat.eq_zero_or_pos l.length with hzero | hpos
    · exact .inr (List.length_eq_zero_iff.mp hzero)
    · exact .inl (Nat.eq_of_mul_eq_mul_right hpos (by omega))
  · rintro (rfl | rfl) <;> simp

/-- **What repeated attempts store**: every attempt writes under one path, saves at most once, and
once if it completes. The rows are appended to the path once for every attempt that saved, so they
are as after a single completed attempt exactly when one attempt saved or there are no rows. -/
theorem rerun_appends (op : SparkRunOperator) (dagId runId : Text) {raw : ContextDict}
    {ctx : RunContext} {source : TableSourceConfig} (hdecoded : RunContext.fromDict raw = .ok ctx)
    (htable : ctx.sourceConfig = .table source) {rows : List ρ} {attempts : List (Attempt ρ)}
    (h : ∀ a ∈ attempts, a.OfRun raw rows) (stored : Text → List ρ) :
    ∃ path, ctx.writePath = .ok path ∧
      (∀ o ∈ op.runAttempts dagId runId stored attempts,
        (o.log.filter SparkEvent.isSaved).length ≤ 1 ∧ (o.result = .ok () → o.saved = true)) ∧
      op.storedAfter dagId runId stored attempts = Function.update stored path (stored path ++
        (List.replicate ((op.runAttempts dagId runId stored attempts).countP Outcome.saved)
          rows).flatten) ∧
      ∀ single : Attempt ρ, single.OfRun raw rows →
        (op.runAttempt dagId runId stored single).result = .ok () →
        (op.storedAfter dagId runId stored attempts path =
            op.storedAfter dagId runId stored [single] path ↔
          (op.runAttempts dagId runId stored attempts).countP Outcome.saved = 1 ∨ rows = []) := by
  obtain ⟨path, hpath⟩ : ∃ path, ctx.writePath = .ok path :=
    RunContext.hasPath_constructSink (RunContext.isTableOrPath_of_fromDict hdecoded)
  have hstored := op.storedAfter_eq dagId runId hdecoded htable hpath h stored
  refine ⟨path, hpath, fun o ho => op.saves_of_mem_runAttempts dagId runId hdecoded htable hpath h
    ho, hstored, fun single hsingle hok => ?_⟩
  have hone : op.storedAfter dagId runId stored [single] =
      Function.update stored path (stored path ++ rows) := by
    rcases op.runAttempt_cases dagId runId hdecoded htable hpath hsingle stored with
      ⟨-, -, -, e, he⟩ | ⟨-, -, hsaved⟩
    · rw [hok] at he
      cases he
    · exact hsaved
  rw [hstored, hone, Function.update_self, Function.update_self, List.append_right_inj]
  exact flatten_replicate_eq_self_iff

/-! ### An example run -/

/-- A table without a checkpoint column. -/
def customersTable : SourceConfig := .table {
  credentialRef := "postgres"
  extra := []
  readOptions := []
  host := "db"
  port := 5432
  database := "shop"
  schema := "public"
  table := "customers"
  query := none
  checkpointColumn := none }

/-- A run that lands the table on HDFS and counts its records. -/
def customersContext : RunContext where
  dagId := "customers"
  runId := "manual"
  ingestionDate := newYear.naive.date
  ingestionTime := newYear
  readType := .sql
  writeType := .hadoop
  metricType := .cloudQueue
  sourceConfig := customersTable
  sinkConfig := {
    endpoint := "hdfs://namenode:9000"
    credentialRef := "hadoop"
    sourceSystemName := "crm"
    ingestionDate := newYear.naive.date
    ingestionTime := newYear
    runId := "manual"
    sourceConfig := customersTable
    extra := []
    fileFormat := "parquet" }
  sourceCredentials := {}
  sinkCredentials := {}
  metricCredentials := {}
  metricConfigRaw := {}
  checkpointFrom := none
  checkpointTo := none
  countRecords := true

/-- The Spark task of the DAG, without an inline metric. -/
def customersSparkRun : SparkRunOperator where
  initTaskId := "init"
  xcomKey := "run_context"
  metricType := none
  metricConfigRaw := none

/-- An attempt on the one row `7`, with given answers of the environment. -/
def customersAttempt (call : SparkCall → Except PyExc Unit) : Attempt ℕ where
  world := {
    xcom := .ok (some customersContext.toDict)
    call
    frame := { fields := [], rows := [7] }
    reshape := fun _ row => row
    copied := true
    metric := {
      getSecret := fun _ => .ok {}
      validate := .ok true
      backend := { now := [], create := .ok (), send := .ok (), flush := .delivered } } }
  hadoopConf := []
  hadoopUser := none

/-- An attempt that completes. -/
def completingAttempt : Attempt ℕ := customersAttempt fun _ => .ok ()

/-- An attempt that loses its Spark session after the save. -/
def interruptedAttempt : Attempt ℕ :=
  customersAttempt fun call => if call = .unpersist then .error (.external "Py4JError") else .ok ()

/-- The path of the run. -/
def customersPath : Text :=
  "hdfs://namenode:9000/crm/shop/public/customers/ingestion_date=2024-01-01/" ++
    "ingestion_time=00-00-00/run_id=manual"

/-- Such an attempt is one at the run. -/
theorem customersAttempt_ofRun (call : SparkCall → Except PyExc Unit) :
    (customersAttempt call).OfRun customersContext.toDict [7] :=
  ⟨fun _ h => (Option.some.inj (Except.ok.inj h)).symm, rfl⟩

/-- The parts of the context agree. -/
theorem coherent_customersContext : customersContext.Coherent where
  source_built := ⟨.inl rfl, by decide +kernel, by decide +kernel⟩
  sink_valid := rfl
  sink_source := rfl
  sink_date := rfl
  sink_time := rfl
  sink_run := rfl

/-- A run that was interrupted and retried has its rows twice, under its path only. -/
theorem rerun_appends_customers : ∃ path, customersContext.writePath = .ok path ∧
    customersSparkRun.storedAfter "customers" "manual" (fun _ => [])
      [interruptedAttempt, completingAttempt] = Function.update (fun _ => []) path [7, 7] := by
  have hcount : (customersSparkRun.runAttempts "customers" "manual" (fun _ => [])
      [interruptedAttempt, completingAttempt]).countP Outcome.saved = 2 := by decide +kernel
  have hattempts : ∀ a ∈ [interruptedAttempt, completingAttempt],
      a.OfRun customersContext.toDict [7] := by
    simp only [List.forall_mem_cons]
    exact ⟨customersAttempt_ofRun _, customersAttempt_ofRun _, fun _ h => absurd h List.not_mem_nil⟩
  obtain ⟨path, hpath, -, hstored, -⟩ := rerun_appends customersSparkRun "customers" "manual"
    (RunContext.fromDict_toDict coherent_customersContext) rfl hattempts fun _ => []
  rw [hcount] at hstored
  exact ⟨path, hpath, hstored⟩

/-- An interrupted attempt and one that completes store the row twice; a single attempt that
completes stores it once. -/
theorem rerun_duplicates :
    (customersSparkRun.runAttempts "customers" "manual" (fun _ => [])
      [interruptedAttempt, completingAttempt]).map (·.result.toBool) = [false, true] ∧
    customersSparkRun.storedAfter "customers" "manual" (fun _ => [])
      [interruptedAttempt, completingAttempt] customersPath = [7, 7] ∧
    customersSparkRun.storedAfter "customers" "manual" (fun _ => [])
      [completingAttempt] customersPath = [7] := by
  refine ⟨?_, ?_, ?_⟩ <;> decide +kernel

end BatchIngestion
