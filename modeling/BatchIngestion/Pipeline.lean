import BatchIngestion.InitOperator
import BatchIngestion.Library.Log
import BatchIngestion.MetricOperator
import Mathlib.Logic.Function.Basic

/-!
# Pipelines as a transition system

Any number of runs of any number of DAGs share the store of checkpoints and the
sources. Every run goes through the three tasks of its DAG, each a list of steps,
and the steps of different runs interleave arbitrarily. A step may raise; the task
can then be retried from its first step, and the next task starts only after the
task before it has succeeded. The system records what happens to the outside world
in a log, newest entry first.

Connections, secrets and configurations are built in steps that either succeed or
raise. They carry no data here, since the source configuration of a DAG is given.
-/

namespace BatchIngestion

open Python Library

/-- The tasks of a DAG in their order, and the end of a run. -/
inductive Task
  /-- `InitOperator`. -/
  | init
  /-- `SparkRunOperator`. -/
  | sparkRun
  /-- `MetricPushOperator`. -/
  | metricPush
  /-- The run is complete. -/
  | done
  deriving DecidableEq

/-- The steps of the tasks. -/
inductive Step
  /-- `_load_config`. -/
  | loadConfig
  /-- `SourceConfigFactory.create`. -/
  | buildSourceConfig
  /-- `SinkConfigFactory.create`. -/
  | buildSinkConfig
  /-- Fetch the source secret and inject the connection. -/
  | sourceSecret
  /-- Fetch the sink secret and inject the endpoint. -/
  | sinkSecret
  /-- Fetch the metric secret. -/
  | metricSecret
  /-- `_fetch_checkpoint_from`. -/
  | fetchCheckpointFrom
  /-- `_fetch_checkpoint_to`. -/
  | fetchCheckpointTo
  /-- Serialise the run context and push it to XCom. -/
  | pushContext
  /-- Pull the run context from XCom and decode it. -/
  | pullContext
  /-- `_build_spark_session`. -/
  | buildSparkSession
  /-- `ReadAdapterFactory.create`. -/
  | createSource
  /-- `WriteAdapterFactory.create`. -/
  | createSink
  /-- `source_adapter.validate_connection`. -/
  | validateSource
  /-- `sink_adapter.validate_connection`. -/
  | validateSink
  /-- `sink_adapter.build_write_path`. -/
  | buildWritePath
  /-- `sink_adapter.copy_from`, for path sources. -/
  | copyFrom
  /-- `source_adapter.apply_filters`. -/
  | applyFilters
  /-- `source_adapter.read`, which builds a lazy DataFrame. -/
  | read
  /-- `df.cache` and `df.count`, which evaluates the DataFrame. -/
  | countRecords
  /-- The evaluation of a DataFrame that was not counted, at the start of the write. -/
  | scan
  /-- `sink_adapter.write`. -/
  | write
  /-- The XCom pulls of the metric task. -/
  | pullCheckpoints
  /-- `_build_metric_adapter`. -/
  | buildMetricAdapter
  /-- `adapter.validate_connection`. -/
  | validateMetric
  /-- `adapter.publish`. -/
  | publish
  /-- `_save_checkpoint`, unless there is nothing to save. -/
  | saveCheckpoint
  deriving DecidableEq

/-- A source as the tasks see it: how its state answers the clients of the init task and
the reads of the Spark task. -/
structure Source (σ β : Type) where
  /-- `read_type`. -/
  readType : ReadAdapterType
  /-- The source configuration with its connection details. -/
  config : SourceConfig
  /-- `count_records`. -/
  countRecords : Bool
  /-- The answers of the native clients. -/
  native : σ → Native
  /-- The batch that the DataFrame of a read with two checkpoints evaluates to. -/
  read : σ → Option CheckpointValue → Option CheckpointValue → Except PyExc β
  /-- The files that a copy lands. -/
  copied : σ → β
  /-- The number of rows of a batch. -/
  size : β → ℕ

/-- `isinstance(source_config, PathSourceConfig)`. -/
def SourceConfig.isPath : SourceConfig → Bool
  | .path _ => true
  | _ => false

/-- A DAG: its identifier, its source and the parameters of its metric task. -/
structure Dag (σ β : Type) where
  /-- `dag_id`. -/
  dagId : Text
  /-- The source. -/
  source : Source σ β
  /-- The metric task. -/
  metricPush : MetricPushOperator

/-- `_make_dag`: a DAG of the DAG factory. -/
def DagFactory.makeDag {σ β : Type} (dagId : Text) (source : Source σ β) : Dag σ β where
  dagId := dagId
  source := source
  metricPush := DagFactory.metricPush dagId

/-- What a run does to the outside world, or learns from it. -/
inductive Action (σ β : Type)
  /-- The init task read `checkpoint_from`. -/
  | fetchedFrom (value : Option CheckpointValue)
  /-- The init task computed `checkpoint_to`. -/
  | fetchedTo (value : Option CheckpointValue)
  /-- A read saw the source in a state and gave a batch. -/
  | read (source : σ) (batch : β)
  /-- A batch was written to the sink. -/
  | landed (batch : β)
  /-- A task succeeded. -/
  | finished (task : Task)
  /-- A metric was published. -/
  | published (payload : Payload)
  /-- The row of the DAG in `public.checkpoints` was set to a text. -/
  | saved (text : Text)

/-- The progress of a run: the steps that remain of its task, and what its tasks keep in
local variables and in XCom. -/
structure Run (β : Type) where
  /-- The current task. -/
  task : Task
  /-- The remaining steps of the current attempt. -/
  todo : List Step
  /-- The current attempt has failed. -/
  failed : Bool := false
  /-- `checkpoint_from` in the init task, once it was read. -/
  checkpointFrom : Option (Option CheckpointValue) := none
  /-- `checkpoint_to` in the init task, once it was computed. -/
  checkpointTo : Option (Option CheckpointValue) := none
  /-- The XCom entry of the init task. -/
  xcom : Option Xcom := none
  /-- The checkpoints that the source adapter was given. -/
  window : Option (Option CheckpointValue × Option CheckpointValue) := none
  /-- The evaluated DataFrame. -/
  batch : Option β := none
  /-- The XCom entry `record_count` of the Spark task. -/
  recordCount : Option ℕ := none
  /-- What the metric task pulled. -/
  pulled : Option Pulled := none

/-- The steps of a task. -/
def Source.steps {σ β : Type} (source : Source σ β) : Task → List Step
  | .init => [.loadConfig, .buildSourceConfig, .buildSinkConfig, .sourceSecret, .sinkSecret,
      .metricSecret, .fetchCheckpointFrom, .fetchCheckpointTo, .pushContext]
  | .sparkRun =>
    [.pullContext, .buildSparkSession, .createSource, .createSink, .validateSource,
      .validateSink] ++
    if source.config.isPath then [.buildWritePath, .copyFrom]
    else if source.countRecords then
      [.applyFilters, .read, .countRecords, .buildWritePath, .write]
    else [.applyFilters, .read, .buildWritePath, .scan, .write]
  | .metricPush => [.pullCheckpoints, .buildMetricAdapter, .validateMetric, .publish,
      .saveCheckpoint]
  | .done => []

/-- What the environment contributes to a step. -/
structure Outside where
  /-- The current time, as an ISO text. -/
  now : Text
  /-- Whether the native client of the source can be reached. -/
  sourceUp : Bool
  /-- Whether an inline failure metric gets through. -/
  metricUp : Bool

/-- Everything can be reached. -/
def Outside.up : Outside where
  now := []
  sourceUp := true
  metricUp := true

/-- The effect of a step: the run after it, what it did to the outside world, and the text
that it upserts into the row of its DAG. -/
structure Effect (σ β : Type) where
  /-- The run after the step. -/
  run : Run β
  /-- What the step did. -/
  emitted : Option (Action σ β) := none
  /-- The upserted text. -/
  upsert : Option Text := none

/-- The evaluation of the DataFrame of a run. -/
def evaluate {σ β : Type} (dag : Dag σ β) (source : σ) (run : Run β) : Except PyExc β :=
  match run.window with
  | some (checkpointFrom, checkpointTo) => dag.source.read source checkpointFrom checkpointTo
  | none => .error (.external "no source adapter")

/-- What a step does when nothing outside makes it raise. The check of the sink factory, which no
Kafka source passes, is left aside; `Step.checkedEffect` makes it. -/
def Step.effect {σ β : Type} (dag : Dag σ β) (info : RunInfo) (outside : Outside) (source : σ)
    (row : Option Text) (run : Run β) : Step → Except PyExc (Effect σ β)
  | .fetchCheckpointFrom => do
    let value ← InitOperator.parseRow (row.map .text)
    return {
      run := { run with checkpointFrom := some value }
      emitted := some (.fetchedFrom value) }
  | .fetchCheckpointTo =>
    let native := if outside.sourceUp then dag.source.native source else Native.down
    let value := InitOperator.fetchCheckpointTo dag.source.readType dag.source.config native
    .ok { run := { run with checkpointTo := some value }, emitted := some (.fetchedTo value) }
  | .pushContext =>
    match run.checkpointFrom, run.checkpointTo with
    | some checkpointFrom, some checkpointTo =>
      let xcom := Xcom.ofCheckpoints checkpointFrom checkpointTo dag.source.readType
        info.ingestionDate
      .ok { run := { run with xcom := some xcom } }
    | _, _ => .error (.external "unbound local variable")
  | .pullContext =>
    match run.xcom with
    | some xcom => do
      let checkpointFrom ← deserialiseCheckpoint xcom.checkpointFrom
      let checkpointTo ← deserialiseCheckpoint xcom.checkpointTo
      return { run := { run with window := some (checkpointFrom, checkpointTo) } }
    | none => .error (.valueError "No XCom value for task_id='init' key='run_context'")
  | .countRecords => do
    let batch ← evaluate dag source run
    return {
      run := { run with batch := some batch, recordCount := some (dag.source.size batch) }
      emitted := some (.read source batch) }
  | .scan => do
    let batch ← evaluate dag source run
    return { run := { run with batch := some batch }, emitted := some (.read source batch) }
  | .write =>
    match run.batch with
    | some batch => .ok { run, emitted := some (.landed batch) }
    | none => .error (.external "no DataFrame")
  | .copyFrom => .ok { run, emitted := some (.landed (dag.source.copied source)) }
  | .pullCheckpoints => do
    let pulled ← dag.metricPush.pull run.xcom run.recordCount
    return { run := { run with pulled := some pulled } }
  | .publish =>
    match run.pulled with
    | some pulled =>
      .ok { run, emitted := some (.published
        (dag.metricPush.payload dag.dagId outside.now info pulled)) }
    | none => .error (.external "unbound local variable")
  | .saveCheckpoint =>
    match run.pulled with
    | some pulled => do
      let text ← dag.metricPush.checkpointToSave pulled
      return { run, emitted := text.map .saved, upsert := text }
    | none => .error (.external "unbound local variable")
  | .loadConfig | .buildSourceConfig | .buildSinkConfig | .sourceSecret | .sinkSecret
  | .metricSecret | .buildSparkSession | .createSource | .createSink | .validateSource
  | .validateSink | .buildWritePath | .applyFilters | .read | .buildMetricAdapter
  | .validateMetric => .ok { run }

/-- A retried attempt starts with the first step of the task. An attempt of the init task
starts without an XCom entry, one of the Spark task without a record count. -/
def Run.restart {σ β : Type} (dag : Dag σ β) (run : Run β) : Run β :=
  match run.task with
  | .init => { task := .init, todo := dag.source.steps .init }
  | .sparkRun => { task := .sparkRun, todo := dag.source.steps .sparkRun, xcom := run.xcom }
  | .metricPush => { task := .metricPush, todo := dag.source.steps .metricPush, xcom := run.xcom
                     recordCount := run.recordCount }
  | .done => run

/-- The task that Airflow starts after a task. -/
def Task.following : Task → Task
  | .init => .sparkRun
  | .sparkRun => .metricPush
  | .metricPush | .done => .done

/-- The run at the start of its next task. -/
def Run.advance {σ β : Type} (dag : Dag σ β) (run : Run β) : Run β where
  task := run.task.following
  todo := dag.source.steps run.task.following
  xcom := run.xcom
  recordCount := run.recordCount

/-- The runs and what they share: the DAG of each run, what Airflow knows about it, and
which changes of the source the environment makes, given the values that runs have
computed as `checkpoint_to` so far. -/
structure System (ι σ β : Type) where
  /-- The DAG of a run. -/
  dag : ι → Dag σ β
  /-- The Airflow data of a run. -/
  info : ι → RunInfo
  /-- The changes of the source. -/
  moves : List CheckpointValue → σ → σ → Bool

/-- The runs of DAGs of the DAG factory. -/
def DagFactory.dags {ι σ β : Type} (dagId : ι → Text) (source : ι → Source σ β)
    (info : ι → RunInfo) (moves : List CheckpointValue → σ → σ → Bool) : System ι σ β where
  dag i := makeDag (dagId i) (source i)
  info := info
  moves := moves

/-- The runs of one DAG of the DAG factory. -/
def DagFactory.oneDag {ι σ β : Type} (dagId : Text) (source : Source σ β) (info : ι → RunInfo)
    (moves : List CheckpointValue → σ → σ → Bool) : System ι σ β :=
  dags (fun _ => dagId) (fun _ => source) info moves

/-- The state of the system. -/
structure State (ι σ β : Type) where
  /-- The sources. -/
  source : σ
  /-- The table `public.checkpoints`: the text of each DAG. -/
  store : Text → Option Text
  /-- The runs. -/
  runs : ι → Run β
  /-- What has happened, newest first. -/
  log : List (ι × Action σ β)

/-- An event of the system. -/
inductive Event (ι σ : Type)
  /-- The source changes. -/
  | source (next : σ)
  /-- A run performs its next step. -/
  | perform (i : ι) (outside : Outside)
  /-- The next step of a run raises. -/
  | raise (i : ι) (error : Text) (metricUp : Bool)
  /-- A failed task is retried. -/
  | retry (i : ι)
  /-- A task succeeds, and the next one starts. -/
  | next (i : ι)

/-- The run that acts in an event. -/
def Event.actor {ι σ : Type} : Event ι σ → Option ι
  | .source _ => none
  | .perform i _ | .raise i _ _ | .retry i | .next i => some i

/-- The value of a `fetchedTo` action that is no `None`. -/
def Action.reported? {σ β : Type} : Action σ β → Option CheckpointValue
  | .fetchedTo v => v
  | _ => none

variable {ι σ β : Type}

/-- The events of a run in which nothing fails. -/
def Source.uneventful (source : Source σ β) (i : ι) (outside : Outside) : List (Event ι σ) :=
  [Task.init, .sparkRun, .metricPush].flatMap fun task =>
    (source.steps task).map (fun _ => .perform i outside) ++ [.next i]

/-- The values that runs have computed as `checkpoint_to`. -/
def reportedIn (log : List (ι × Action σ β)) : List CheckpointValue :=
  log.filterMap fun entry => entry.2.reported?

/-- The runs before their first steps. -/
def State.start (sys : System ι σ β) (source : σ) (store : Text → Option Text) : State ι σ β where
  source := source
  store := store
  runs i := { task := .init, todo := (sys.dag i).source.steps .init }
  log := []

section Step

variable [DecidableEq ι]

/-- Replace a run. -/
def State.setRun (s : State ι σ β) (i : ι) (run : Run β) : State ι σ β :=
  { s with runs := Function.update s.runs i run }

/-- Append an action of a run to the log. -/
def State.emit (s : State ι σ β) (i : ι) (action : Option (Action σ β)) : State ι σ β :=
  { s with log := action.elim s.log fun a => (i, a) :: s.log }

/-- The upsert of a step, one transaction. -/
def State.upsert (s : State ι σ β) (dagId : Text) (text : Option Text) : State ι σ β :=
  { s with store := text.elim s.store fun t => Function.update s.store dagId (some t) }

/-- The failure of an attempt. The Spark task pushes an inline metric, which may get lost. -/
def System.fail (sys : System ι σ β) (s : State ι σ β) (i : ι) (error : Text) (metricUp : Bool) :
    State ι σ β :=
  let run := s.runs i
  let metric := if run.task = .sparkRun ∧ metricUp then
    some (.published (failurePayload (sys.dag i).dagId (sys.info i).runId error)) else none
  (s.setRun i { run with failed := true }).emit i metric

/-- `str` of an exception, in a failure metric. A `KeyError` shows the `repr` of its key, which is
the key in quotes for the keys of a run context and of a secret. -/
def PyExc.text : PyExc → Text
  | .keyError key => '\'' :: (key ++ ['\''])
  | .valueError m | .typeError m | .runtimeError m | .overflowError m | .attributeError m
  | .external m => m

/-- A run performs a step, which may raise by itself. -/
def System.performStep (sys : System ι σ β) (s : State ι σ β) (i : ι) (outside : Outside)
    (step : Step) (rest : List Step) : State ι σ β :=
  let dag := sys.dag i
  match step.effect dag (sys.info i) outside s.source (s.store dag.dagId) (s.runs i) with
  | .ok effect =>
    ((s.setRun i { effect.run with todo := rest }).upsert dag.dagId effect.upsert).emit i
      effect.emitted
  | .error e => sys.fail s i (PyExc.text e) outside.metricUp

section PerformStep

variable {sys : System ι σ β} {s : State ι σ β} {i : ι} {outside : Outside} {step : Step}
  {rest : List Step}

/-- A step that has an effect. -/
theorem System.performStep_of_ok {effect : Effect σ β}
    (h : step.effect (sys.dag i) (sys.info i) outside s.source (s.store (sys.dag i).dagId)
      (s.runs i) = .ok effect) :
    sys.performStep s i outside step rest =
      ((s.setRun i { effect.run with todo := rest }).upsert (sys.dag i).dagId effect.upsert).emit i
        effect.emitted := by
  simp only [performStep, h]

/-- A step that raises. -/
theorem System.performStep_of_error {e : PyExc}
    (h : step.effect (sys.dag i) (sys.info i) outside s.source (s.store (sys.dag i).dagId)
      (s.runs i) = .error e) :
    sys.performStep s i outside step rest = sys.fail s i (PyExc.text e) outside.metricUp := by
  simp only [performStep, h]

end PerformStep

/-- One event; `none` when it is not enabled. -/
def System.step (sys : System ι σ β) (s : State ι σ β) : Event ι σ → Option (State ι σ β)
  | .source next =>
    if sys.moves (reportedIn s.log) s.source next then some { s with source := next } else none
  | .perform i outside =>
    match (s.runs i).failed, (s.runs i).todo with
    | false, step :: rest => some (sys.performStep s i outside step rest)
    | _, _ => none
  | .raise i error metricUp =>
    match (s.runs i).failed, (s.runs i).todo with
    | false, _ :: _ => some (sys.fail s i error metricUp)
    | _, _ => none
  | .retry i =>
    if (s.runs i).failed then some (s.setRun i ((s.runs i).restart (sys.dag i))) else none
  | .next i =>
    let run := s.runs i
    if run.failed = false ∧ run.todo = [] ∧ run.task ≠ .done then
      some ((s.setRun i (run.advance (sys.dag i))).emit i (some (.finished run.task)))
    else none

end Step

end BatchIngestion
