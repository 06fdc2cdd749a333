import BatchIngestion.Pipeline
import BatchIngestion.SparkSession

/-!
# The Spark task

`SparkRunOperator.execute` decodes the run context, builds the two adapters, and reads and
writes, or copies. An exception on the way is pushed as a metric and raised again.
-/

namespace BatchIngestion

open Python Library SparkAction Procedure

variable {ρ : Type}

/-- The parameters of a `SparkRunOperator`. -/
structure SparkRunOperator where
  /-- `init_task_id`. -/
  initTaskId : Text
  /-- `xcom_key`. -/
  xcomKey : Text
  /-- `metric_type`. -/
  metricType : Option MetricAdapterType
  /-- `metric_config_raw`, when it is not empty. -/
  metricConfigRaw : Option MetricConfigRaw

/-- A value of a metric payload as a Python value. -/
def PayloadValue.toValue : PayloadValue → Value
  | .none => .none
  | .str value => .str value
  | .int value => .int value

/-- The payload of a failure metric, as it is published. -/
def failureValues (dagId runId : Text) (e : PyExc) : Dict Text Value :=
  (failurePayload dagId runId (PyExc.text e)).map fun (k, v) => (k, v.toValue)

/-- What a task works with: the run context, as the constructors leave it, and the sink. -/
structure SparkTask where
  /-- The run context. -/
  ctx : RunContext
  /-- The sink adapter. -/
  sink : SinkAdapter

namespace SparkRunOperator

/-- The XCom pull and its decoding. -/
def pullContext (op : SparkRunOperator) (world : SparkWorld ρ) : SparkAction ρ RunContext := do
  let raw ← step world.xcom
  match raw with
  | none => step (.error (.valueError (("No XCom value for task_id='" : Text) ++ op.initTaskId ++
      ("' key='" : Text) ++ op.xcomKey ++ ['\''])))
  | some raw => step (RunContext.fromDict raw)

/-- The optional count of the records. -/
def countRecords (world : SparkWorld ρ) (ctx : RunContext) : SparkAction ρ Unit :=
  if ctx.countRecords then do
    step (world.call .cache)
    step (world.call .count)
    step (world.call .pushCount)
  else
    pure ()

/-- Release what was cached for the count. -/
def unpersist (world : SparkWorld ρ) (ctx : RunContext) : SparkAction ρ Unit :=
  if ctx.countRecords then step (world.call .unpersist) else pure ()

/-- Read the source and write what was read. -/
def readAndWrite (world : SparkWorld ρ) (ctx : RunContext) (sink : SinkAdapter) :
    SparkAction ρ Unit := do
  step (world.call .applyFilters)
  step (world.call .read)
  countRecords world ctx
  let _ ← step (buildWritePath sink.config)
  sink.write world world.frame
  unpersist world ctx

/-- Copy the files of a path source. -/
def copyFiles (world : SparkWorld ρ) (source : PathSourceConfig) (sink : SinkAdapter) :
    SparkAction ρ Unit := do
  let dest ← step (buildWritePath sink.config)
  sink.copyFrom world source.path dest

/-- The context, the session and the two adapters. -/
def setUp (op : SparkRunOperator) (world : SparkWorld ρ) : SparkAction ρ SparkTask := do
  let ctx ← op.pullContext world
  step (world.call .buildSession)
  let ctx ← ReadAdapterFactory.create world ctx
  let sink ← WriteAdapterFactory.create world ctx
  return { ctx, sink }

/-- The steps in the `try` of `execute`. -/
def body (op : SparkRunOperator) (world : SparkWorld ρ) : SparkAction ρ Unit := do
  let task ← op.setUp world
  validateSource world task.ctx
  task.sink.validateConnection world
  match task.ctx.sourceConfig with
  | .path source => copyFiles world source task.sink
  | _ => readAndWrite world task.ctx task.sink

/-- `_push_failure_metric`. -/
def pushFailureMetric (op : SparkRunOperator) (world : SparkWorld ρ) (dagId runId : Text)
    (e : PyExc) : SparkAction ρ Unit :=
  match op.metricType, op.metricConfigRaw with
  | some metricType, some raw => do
    emit (.pushing (failureValues dagId runId e))
    lift .metric (pushMetricInline (failureValues dagId runId e) metricType raw world.metric)
  | _, _ => pure ()

/-- `execute`. -/
def execute (op : SparkRunOperator) (world : SparkWorld ρ) (dagId runId : Text) :
    SparkAction ρ Unit :=
  onException (op.body world) (op.pushFailureMetric world dagId runId)

end SparkRunOperator

end BatchIngestion
