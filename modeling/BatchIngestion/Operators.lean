import BatchIngestion.Retries
import BatchIngestion.PrimaryQueue

/-!
# The operators under Airflow

A deployment runs the three operators of each of its DAGs, task by task. An attempt is one
execution of the code of an operator; what it sees of the shared stores it sees at the
moment of the call, so that attempts of different runs overlap: the init task reads the row
of checkpoints, then asks the native client, then ends; the Spark task evaluates its
DataFrame, then ends. Every other call belongs to its attempt alone and may raise.
-/

namespace BatchIngestion

open Python Library

variable {ι σ ρ : Type}

/-! ### The state between the calls -/

/-- What a run has left in Airflow, and what the calls of its current attempt have seen. -/
structure TaskRun (ρ : Type) where
  /-- The current task. -/
  task : Task
  /-- The last attempt at the task has failed. -/
  failed : Bool := false
  /-- The XCom entry `run_context`. -/
  context : Option ContextDict := none
  /-- The XCom entry `record_count`. -/
  recordCount : Option ℕ := none
  /-- The row of checkpoints that the init task has read. -/
  row : Option (Option Text) := none
  /-- The answers of the native clients to the init task. -/
  native : Option Native := none
  /-- The rows of the DataFrame that the Spark task has evaluated. -/
  frame : Option (List ρ) := none

/-- A retried attempt starts from what the earlier tasks have left. -/
def TaskRun.restart (r : TaskRun ρ) : TaskRun ρ :=
  match r.task with
  | .init => { task := .init }
  | .sparkRun => { task := .sparkRun, context := r.context }
  | .metricPush => { task := .metricPush, context := r.context, recordCount := r.recordCount }
  | .done => r

/-- The task stays the same. -/
theorem TaskRun.restart_task (r : TaskRun ρ) : r.restart.task = r.task := by
  obtain ⟨task, _⟩ := r
  cases task <;> rfl

/-- `count_records` of the run context. -/
def TaskRun.counts (r : TaskRun ρ) : Bool := r.context.any ContextDict.countRecords

/-- The call that evaluates the DataFrame of a run: the count, or the save. -/
def TaskRun.evaluatingCall (r : TaskRun ρ) : SparkCall := if r.counts then .count else .save

/-- A run that can go on with a task. -/
def TaskRun.isIn (r : TaskRun ρ) (task : Task) : Bool := r.task = task && !r.failed

/-- The DAGs of a deployment, by their runs. -/
structure Deployment (ι σ ρ : Type) where
  /-- The DAG of a run, with its source and the parameters of its metric task. -/
  dag : ι → Dag σ (List ρ)
  /-- The Spark task. -/
  sparkRun : ι → SparkRunOperator
  /-- `metric_type`. -/
  metricType : ι → MetricAdapterType
  /-- `metric_config_raw`. -/
  metricConfigRaw : ι → MetricConfigRaw
  /-- `run_id`. -/
  runId : ι → Text
  /-- The start date of the DAG run, as an ISO text. -/
  startTime : ι → Text
  /-- `data_interval_start`. -/
  dataIntervalStart : ι → DateTime
  /-- The changes of the source, given the values that were computed as `checkpoint_to`. -/
  moves : List CheckpointValue → σ → σ → Bool

/-- What the tasks of a deployment share. -/
structure Cluster (ι σ ρ : Type) where
  /-- The sources. -/
  source : σ
  /-- The states that the sources have had. -/
  sources : List σ
  /-- The table `public.checkpoints`. -/
  store : Text → Option Text
  /-- The rows under each path of the sink. -/
  sink : Text → List ρ
  /-- The runs. -/
  runs : ι → TaskRun ρ
  /-- The messages that queues have accepted. -/
  accepted : List (ι × QueueMessage)
  /-- The values that were computed as `checkpoint_to`. -/
  reported : List CheckpointValue
  /-- What the last evaluation of the DataFrame of a run has seen and given. No task reads it. -/
  evaluated : ι → Option (σ × List ρ)

/-! ### What an attempt is given -/

/-- What the end of an init attempt depends on. -/
structure InitInput where
  /-- `_load_config`. -/
  load : Except PyExc PipelineConfig
  /-- `openbao.get_secret`. -/
  getSecret : Text → Except PyExc Secret
  /-- What reading the row of checkpoints raises, when it does. -/
  unread : PyExc

/-- What the end of a Spark attempt depends on. -/
structure SparkInput where
  /-- `xcom_pull`. -/
  pull : Except PyExc Unit
  /-- The calls that leave the process. -/
  call : SparkCall → Except PyExc Unit
  /-- The columns of the DataFrame. -/
  fields : SparkSchema
  /-- What `FileUtil.copy` returns. -/
  copied : Bool
  /-- The metric backend. -/
  metric : MetricWorld
  /-- The Hadoop configuration of the process at its start. -/
  hadoopConf : Dict Text Text
  /-- `HADOOP_USER_NAME` of the process at its start. -/
  hadoopUser : Option Text

/-- What a metric attempt depends on. -/
structure MetricTaskInput where
  /-- `stop_time`. -/
  stopTime : Text
  /-- `published_at`. -/
  now : Text
  /-- The secret and the queue. -/
  world : MetricWorld
  /-- `_save_checkpoint`, up to the commit. -/
  connect : Except PyExc Unit

/-- The last step of `MetricPushOperator.execute`: the text that is committed, if any. -/
def MetricPush.saveCheckpoint (op : MetricPush) (input : MetricInput)
    (connect : Except PyExc Unit) : Except PyExc (Option Text) := do
  let pulled ← op.pull (input.context.map ContextDict.xcom) input.recordCount
  let text ← op.checkpointToSave pulled
  match text with
  | some text => do
    connect
    return some text
  | none => return none

/-- An event of a metric adapter in the log of a Spark attempt. -/
def SparkEvent.metric? : SparkEvent ρ → Option MetricEvent
  | .metric event => some event
  | _ => none

/-- The messages that a queue accepted during a Spark attempt. -/
def sparkAccepted (log : List (SparkEvent ρ)) : List QueueMessage :=
  acceptedMessages (log.filterMap SparkEvent.metric?)

namespace Deployment

variable (D : Deployment ι σ ρ)

/-- What Airflow knows about a run. -/
def info (i : ι) : RunInfo where
  runId := D.runId i
  startTime := D.startTime i
  ingestionDate := dateIsoformat (D.dataIntervalStart i).naive.date

/-- The metric task of a run. -/
def metricPush (i : ι) : MetricPush where
  toMetricPushOperator := (D.dag i).metricPush
  metricType := D.metricType i
  metricConfigRaw := D.metricConfigRaw i

/-- `InitOperator.execute`, with what the attempt has seen. -/
def initTask (i : ι) (r : TaskRun ρ) (input : InitInput) : Except PyExc RunContext := do
  let cfg ← input.load
  InitOperator.execute {
    dagId := (D.dag i).dagId
    runId := D.runId i
    dataIntervalStart := D.dataIntervalStart i
    getSecret := input.getSecret
    checkpointRow := r.row.elim (.error input.unread) fun row => .ok (row.map .text)
    native := r.native.getD .down } cfg

/-- The environment of a Spark attempt. -/
def sparkWorld (r : TaskRun ρ) (input : SparkInput) : SparkWorld ρ where
  xcom := input.pull.map fun _ => r.context
  call := input.call
  frame := { fields := input.fields, rows := r.frame.getD [] }
  reshape _ row := row
  copied := input.copied
  metric := input.metric

/-- `SparkRunOperator.execute`, on what the sink holds. -/
def sparkTask (i : ι) (r : TaskRun ρ) (input : SparkInput) (sink : Text → List ρ) :
    Outcome PyExc (SparkState ρ) (SparkEvent ρ) Unit :=
  (D.sparkRun i).execute (sparkWorld r input) (D.dag i).dagId (D.runId i)
    ⟨input.hadoopConf, input.hadoopUser, sink⟩

/-- What the metric task pulls and publishes with. -/
def metricInput (r : TaskRun ρ) (input : MetricTaskInput) : MetricInput where
  context := r.context
  recordCount := r.recordCount
  world := input.world

/-- `MetricPushOperator.execute` up to `publish`. -/
def publishTask (i : ι) (r : TaskRun ρ) (input : MetricTaskInput) :
    Outcome PyExc Unit MetricEvent Unit :=
  (D.metricPush i).publishMetric
    { dagId := (D.dag i).dagId, info := D.info i, stopTime := input.stopTime, now := input.now }
    (metricInput r input) ()

/-- What a Spark task reads with the context it decodes. -/
def evaluation (i : ι) (C : Cluster ι σ ρ) : Option (List ρ) := do
  let raw ← (C.runs i).context
  let ctx ← (RunContext.fromDict raw).toOption
  ((D.dag i).source.read C.source ctx.checkpointFrom ctx.checkpointTo).toOption

end Deployment

/-! ### The transitions -/

/-- What happens in a deployment. -/
inductive OperatorEvent (ι σ : Type)
  /-- The source changes. -/
  | source (next : σ)
  /-- A failed task is retried. -/
  | retry (i : ι)
  /-- The init task reads the row of checkpoints. -/
  | fetchFrom (i : ι)
  /-- The init task asks the native client, which may be out of reach. -/
  | fetchTo (i : ι) (sourceUp : Bool)
  /-- An init attempt ends. -/
  | init (i : ι) (input : InitInput)
  /-- The Spark task evaluates its DataFrame. -/
  | evaluate (i : ι)
  /-- A Spark attempt ends. -/
  | sparkRun (i : ι) (input : SparkInput)
  /-- A metric attempt. -/
  | metricPush (i : ι) (input : MetricTaskInput)

/-- The state before the first task. -/
def Cluster.start (source : σ) (store : Text → Option Text) (sink : Text → List ρ) :
    Cluster ι σ ρ where
  source := source
  sources := [source]
  store := store
  sink := sink
  runs _ := { task := .init }
  accepted := []
  reported := []
  evaluated _ := none

section Step

variable [DecidableEq ι] (D : Deployment ι σ ρ)

/-- Replace a run. -/
def Cluster.setRun (C : Cluster ι σ ρ) (i : ι) (r : TaskRun ρ) : Cluster ι σ ρ :=
  { C with runs := Function.update C.runs i r }

/-- The DataFrame of a run is evaluated. -/
def Cluster.evaluate (C : Cluster ι σ ρ) (i : ι) (rows : List ρ) : Cluster ι σ ρ :=
  { C.setRun i { C.runs i with frame := some rows } with
    evaluated := Function.update C.evaluated i (some (C.source, rows)) }

/-- The attempt of a run fails. -/
def Cluster.fail (C : Cluster ι σ ρ) (i : ι) : Cluster ι σ ρ :=
  C.setRun i { C.runs i with failed := true }

namespace Deployment

/-- The native client answers an init task. -/
def fetchTo (C : Cluster ι σ ρ) (i : ι) (sourceUp : Bool) : Cluster ι σ ρ :=
  let source := (D.dag i).source
  let native := if sourceUp then source.native C.source else Native.down
  let value := InitOperator.fetchCheckpointTo source.readType source.config native
  { C.setRun i { C.runs i with native := some native } with reported := value.toList ++ C.reported }

/-- An init attempt ends. It cannot return before the calls it makes have been answered. -/
def endInit (C : Cluster ι σ ρ) (i : ι) (input : InitInput) : Option (Cluster ι σ ρ) :=
  match D.initTask i (C.runs i) input with
  | .error _ => some (C.fail i)
  | .ok ctx =>
    if (C.runs i).native.isSome then
      some (C.setRun i { task := .sparkRun, context := some ctx.toDict })
    else none

/-- A Spark attempt ends. -/
def endSpark (C : Cluster ι σ ρ) (i : ι) (input : SparkInput) : Cluster ι σ ρ :=
  let r := C.runs i
  let outcome := D.sparkTask i r input C.sink
  let C := { C with
    sink := outcome.state.stored
    accepted := (sparkAccepted outcome.log).map (fun m => (i, m)) ++ C.accepted }
  match outcome.result with
  | .ok _ => C.setRun i {
      task := .metricPush
      context := r.context
      recordCount := if r.counts then r.frame.map List.length else none }
  | .error _ => C.fail i

/-- A metric attempt. -/
def runMetric (C : Cluster ι σ ρ) (i : ι) (input : MetricTaskInput) : Cluster ι σ ρ :=
  let r := C.runs i
  let outcome := D.publishTask i r input
  let C := { C with
    accepted := (acceptedMessages outcome.log).map (fun m => (i, m)) ++ C.accepted }
  match outcome.result.bind fun _ =>
    (D.metricPush i).saveCheckpoint (metricInput r input) input.connect with
  | .ok text =>
    { C with
      store := text.elim C.store fun t => Function.update C.store (D.dag i).dagId (some t)
      runs := Function.update C.runs i
        { task := .done, context := r.context, recordCount := r.recordCount } }
  | .error _ => C.fail i

section Frame

variable (C : Cluster ι σ ρ) (i : ι)

/-- A Spark attempt leaves the table of checkpoints alone. -/
@[simp] theorem endSpark_store (input : SparkInput) : (D.endSpark C i input).store = C.store := by
  unfold endSpark
  dsimp only
  split <;> rfl

/-- A Spark attempt adds no state of the sources. -/
@[simp] theorem endSpark_sources (input : SparkInput) :
    (D.endSpark C i input).sources = C.sources := by
  unfold endSpark
  dsimp only
  split <;> rfl

/-- A Spark attempt does not change the source. -/
@[simp] theorem endSpark_source (input : SparkInput) :
    (D.endSpark C i input).source = C.source := by
  unfold endSpark
  dsimp only
  split <;> rfl

/-- The end of a Spark attempt evaluates nothing. -/
@[simp] theorem endSpark_evaluated (input : SparkInput) :
    (D.endSpark C i input).evaluated = C.evaluated := by
  unfold endSpark
  dsimp only
  split <;> rfl

/-- The sink after a Spark attempt. -/
@[simp] theorem endSpark_sink (input : SparkInput) :
    (D.endSpark C i input).sink = (D.sparkTask i (C.runs i) input C.sink).state.stored := by
  unfold endSpark
  dsimp only
  split <;> rfl

/-- The accepted messages after a Spark attempt. -/
@[simp] theorem endSpark_accepted (input : SparkInput) :
    (D.endSpark C i input).accepted =
      (sparkAccepted (D.sparkTask i (C.runs i) input C.sink).log).map (fun m => (i, m)) ++
        C.accepted := by
  unfold endSpark
  dsimp only
  split <;> rfl

/-- A Spark attempt keeps the run context of its run, and what it has evaluated or nothing. -/
theorem exists_endSpark_runs (input : SparkInput) : ∃ r,
    (D.endSpark C i input).runs = Function.update C.runs i r ∧
      r.context = (C.runs i).context ∧ (r.task = .metricPush ∨ r.task = (C.runs i).task) ∧
      (r.frame = none ∨ r.frame = (C.runs i).frame) := by
  unfold endSpark
  dsimp only
  split
  · exact ⟨_, rfl, rfl, .inl rfl, .inl rfl⟩
  · exact ⟨_, rfl, rfl, .inr rfl, .inr rfl⟩

/-- A metric attempt keeps the run context of its run and evaluates nothing. -/
theorem exists_runMetric_runs (input : MetricTaskInput) : ∃ r,
    (D.runMetric C i input).runs = Function.update C.runs i r ∧
      r.context = (C.runs i).context ∧ (r.task = .done ∨ r.task = (C.runs i).task) ∧
      (r.frame = none ∨ r.frame = (C.runs i).frame) := by
  unfold runMetric
  dsimp only
  split
  · exact ⟨_, rfl, rfl, .inl rfl, .inl rfl⟩
  · exact ⟨_, rfl, rfl, .inr rfl, .inr rfl⟩

/-- The accepted messages after a metric attempt. -/
@[simp] theorem runMetric_accepted (input : MetricTaskInput) :
    (D.runMetric C i input).accepted =
      (acceptedMessages (D.publishTask i (C.runs i) input).log).map (fun m => (i, m)) ++
        C.accepted := by
  unfold runMetric
  dsimp only
  split <;> rfl

/-- A metric attempt leaves the sink alone. -/
@[simp] theorem runMetric_sink (input : MetricTaskInput) :
    (D.runMetric C i input).sink = C.sink := by
  unfold runMetric
  dsimp only
  split <;> rfl

/-- A metric attempt adds no state of the sources. -/
@[simp] theorem runMetric_sources (input : MetricTaskInput) :
    (D.runMetric C i input).sources = C.sources := by
  unfold runMetric
  dsimp only
  split <;> rfl

/-- A metric attempt does not change the source. -/
@[simp] theorem runMetric_source (input : MetricTaskInput) :
    (D.runMetric C i input).source = C.source := by
  unfold runMetric
  dsimp only
  split <;> rfl

/-- A metric attempt evaluates nothing. -/
@[simp] theorem runMetric_evaluated (input : MetricTaskInput) :
    (D.runMetric C i input).evaluated = C.evaluated := by
  unfold runMetric
  dsimp only
  split <;> rfl

end Frame

/-- One event; `none` when it is not enabled. A call that evaluates the DataFrame and returns
has seen the source. -/
def step (C : Cluster ι σ ρ) : OperatorEvent ι σ → Option (Cluster ι σ ρ)
  | .source next =>
    if D.moves C.reported C.source next then
      some { C with source := next, sources := next :: C.sources }
    else none
  | .retry i => if (C.runs i).failed then some (C.setRun i (C.runs i).restart) else none
  | .fetchFrom i =>
    if (C.runs i).isIn .init ∧ (C.runs i).row.isNone ∧ (C.runs i).native.isNone then
      some (C.setRun i { C.runs i with row := some (C.store (D.dag i).dagId) })
    else none
  | .fetchTo i sourceUp =>
    if (C.runs i).isIn .init ∧ (C.runs i).row.isSome ∧ (C.runs i).native.isNone then
      some (D.fetchTo C i sourceUp)
    else none
  | .init i input => if (C.runs i).isIn .init then D.endInit C i input else none
  | .evaluate i =>
    if (C.runs i).isIn .sparkRun ∧ (C.runs i).frame.isNone then
      (D.evaluation i C).map fun rows => C.evaluate i rows
    else none
  | .sparkRun i input =>
    if (C.runs i).isIn .sparkRun ∧
        ((C.runs i).frame.isSome ∨ (input.call (C.runs i).evaluatingCall).isOk = false) then
      some (D.endSpark C i input)
    else none
  | .metricPush i input =>
    if (C.runs i).isIn .metricPush then some (D.runMetric C i input) else none

/-- The pipeline file and the secrets of an attempt describe the source of the DAG. -/
def Described (C : Cluster ι σ ρ) : OperatorEvent ι σ → Prop
  | .init i input => ∀ ctx, D.initTask i (C.runs i) input = .ok ctx →
      ctx.readType = (D.dag i).source.readType ∧ ctx.sourceConfig = (D.dag i).source.config ∧
        ctx.countRecords = (D.dag i).source.countRecords
  | _ => True

/-- What an event does. -/
inductive Transition (C : Cluster ι σ ρ) : OperatorEvent ι σ → Cluster ι σ ρ → Prop
  /-- The source changes. -/
  | changed {next : σ} (hmoves : D.moves C.reported C.source next = true) :
    Transition C (.source next) { C with source := next, sources := next :: C.sources }
  /-- A failed task starts over. -/
  | retried {i : ι} (hfailed : (C.runs i).failed = true) :
    Transition C (.retry i) (C.setRun i (C.runs i).restart)
  /-- The init task has read its row. -/
  | fetchedFrom {i : ι} (hin : (C.runs i).isIn .init = true) (hrow : (C.runs i).row = none)
    (hnative : (C.runs i).native = none) :
    Transition C (.fetchFrom i)
      (C.setRun i { C.runs i with row := some (C.store (D.dag i).dagId) })
  /-- The init task has asked the native client. -/
  | fetchedTo {i : ι} {sourceUp : Bool} (hin : (C.runs i).isIn .init = true)
    (hrow : (C.runs i).row.isSome = true) (hnative : (C.runs i).native = none) :
    Transition C (.fetchTo i sourceUp) (D.fetchTo C i sourceUp)
  /-- The init task has failed. -/
  | initFailed {i : ι} {input : InitInput} {e : PyExc} (hin : (C.runs i).isIn .init = true)
    (he : D.initTask i (C.runs i) input = .error e) : Transition C (.init i input) (C.fail i)
  /-- The init task has pushed a run context. -/
  | pushed {i : ι} {input : InitInput} {ctx : RunContext} {native : Native}
    (hin : (C.runs i).isIn .init = true) (hctx : D.initTask i (C.runs i) input = .ok ctx)
    (hnative : (C.runs i).native = some native) :
    Transition C (.init i input) (C.setRun i { task := .sparkRun, context := some ctx.toDict })
  /-- The DataFrame has been evaluated. -/
  | evaluated {i : ι} {rows : List ρ} (hin : (C.runs i).isIn .sparkRun = true)
    (hframe : (C.runs i).frame = none) (hrows : D.evaluation i C = some rows) :
    Transition C (.evaluate i) (C.evaluate i rows)
  /-- A Spark attempt has ended. -/
  | sparkEnded {i : ι} {input : SparkInput} (hin : (C.runs i).isIn .sparkRun = true)
    (hready : (C.runs i).frame.isSome = true ∨
      (input.call (C.runs i).evaluatingCall).isOk = false) :
    Transition C (.sparkRun i input) (D.endSpark C i input)
  /-- A metric attempt has ended. -/
  | metricEnded {i : ι} {input : MetricTaskInput} (hin : (C.runs i).isIn .metricPush = true) :
    Transition C (.metricPush i input) (D.runMetric C i input)

variable {D} {C C' : Cluster ι σ ρ} {e : OperatorEvent ι σ}

/-- Every step is a transition. -/
theorem transition_of_step (h : D.step C e = some C') : D.Transition C e C' := by
  cases e with
  | source next =>
    obtain ⟨hmoves, h⟩ := Option.ite_none_right_eq_some.mp h
    obtain rfl := Option.some.inj h
    exact .changed hmoves
  | retry i =>
    obtain ⟨hfailed, h⟩ := Option.ite_none_right_eq_some.mp h
    obtain rfl := Option.some.inj h
    exact .retried hfailed
  | fetchFrom i =>
    obtain ⟨⟨hin, hrow, hnative⟩, h⟩ := Option.ite_none_right_eq_some.mp h
    obtain rfl := Option.some.inj h
    exact .fetchedFrom hin (Option.isNone_iff_eq_none.mp hrow)
      (Option.isNone_iff_eq_none.mp hnative)
  | fetchTo i sourceUp =>
    obtain ⟨⟨hin, hrow, hnative⟩, h⟩ := Option.ite_none_right_eq_some.mp h
    obtain rfl := Option.some.inj h
    exact .fetchedTo hin hrow (Option.isNone_iff_eq_none.mp hnative)
  | init i input =>
    obtain ⟨hin, h⟩ := Option.ite_none_right_eq_some.mp h
    unfold endInit at h
    split at h
    · rename_i e he
      obtain rfl := Option.some.inj h
      exact .initFailed hin he
    · rename_i ctx hctx
      obtain ⟨hsome, h⟩ := Option.ite_none_right_eq_some.mp h
      obtain rfl := Option.some.inj h
      obtain ⟨native, hnative⟩ := Option.isSome_iff_exists.mp hsome
      exact .pushed hin hctx hnative
  | evaluate i =>
    obtain ⟨⟨hin, hframe⟩, h⟩ := Option.ite_none_right_eq_some.mp h
    obtain ⟨rows, hrows, rfl⟩ := Option.map_eq_some_iff.mp h
    exact .evaluated hin (Option.isNone_iff_eq_none.mp hframe) hrows
  | sparkRun i input =>
    obtain ⟨⟨hin, hready⟩, h⟩ := Option.ite_none_right_eq_some.mp h
    obtain rfl := Option.some.inj h
    exact .sparkEnded hin hready
  | metricPush i input =>
    obtain ⟨hin, h⟩ := Option.ite_none_right_eq_some.mp h
    obtain rfl := Option.some.inj h
    exact .metricEnded hin

end Deployment

end Step

end BatchIngestion
