import BatchIngestion.Envelope
import BatchIngestion.FailureReport

/-!
# The Spark task behind the envelope

The Spark task works with what it decodes from XCom, which is the run context of the
init task up to the `extra` dictionary of the sink. Neither adapter ever looks at that
dictionary: through the envelope the task does exactly what it would do with the run
context itself, in its calls, its writes, its log entries and its exceptions.
-/

namespace BatchIngestion

open Python Library SparkAction Procedure

variable {ρ : Type}

namespace SparkRunOperator

/-- The steps in the `try` of `execute`, with another way to get the run context. -/
def bodyFrom (pull : SparkAction ρ RunContext) (world : SparkWorld ρ) : SparkAction ρ Unit := do
  let ctx ← pull
  step (world.call .buildSession)
  let ctx ← ReadAdapterFactory.create world ctx
  let sink ← WriteAdapterFactory.create world ctx
  validateSource world ctx
  sink.validateConnection world
  match ctx.sourceConfig with
  | .path source => copyFiles world source sink
  | _ => readAndWrite world ctx sink

/-- The task that is given a run context instead of its envelope. -/
def executeOn (op : SparkRunOperator) (ctx : RunContext) (world : SparkWorld ρ)
    (dagId runId : Text) : SparkAction ρ Unit :=
  onException (bodyFrom (pure ctx) world) (op.pushFailureMetric world dagId runId)

end SparkRunOperator

/-! ### What nobody looks at -/

/-- A run context without the `extra` dictionary of its sink. -/
def RunContext.dropSinkExtra (ctx : RunContext) : RunContext :=
  { ctx with sinkConfig := ctx.sinkConfig.dropExtra }

/-- A sink adapter without the `extra` dictionary of its configuration. -/
def SinkAdapter.dropExtra (sink : SinkAdapter) : SinkAdapter :=
  { sink with config := sink.config.dropExtra }

/-- The constructor of the source adapter does not look at the `extra` dictionary. -/
theorem RunContext.constructSource_dropSinkExtra (ctx : RunContext) :
    ctx.dropSinkExtra.constructSource = ctx.constructSource.dropSinkExtra := by
  unfold constructSource
  have htype : ctx.dropSinkExtra.readType = ctx.readType := rfl
  have hsource : ctx.dropSinkExtra.sourceConfig = ctx.sourceConfig := rfl
  rw [htype, hsource]
  split <;> rfl

/-- The constructor of the sink adapter does not look at it. -/
theorem RunContext.constructSink_dropSinkExtra (ctx : RunContext) :
    ctx.dropSinkExtra.constructSink = ctx.constructSink.dropExtra := by
  unfold constructSink SinkAdapter.dropExtra
  have htype : ctx.dropSinkExtra.writeType = ctx.writeType := rfl
  rw [htype]
  cases ctx.writeType <;> rfl

namespace SinkAdapter

variable (sink : SinkAdapter) (world : SparkWorld ρ)

/-- The check of the connection does not look at it. -/
theorem validateConnection_dropExtra :
    sink.dropExtra.validateConnection world = sink.validateConnection world := rfl

end SinkAdapter

namespace SparkRunOperator

variable (world : SparkWorld ρ)

/-- Reading and writing does not look at it. -/
theorem readAndWrite_dropExtra (ctx : RunContext) (sink : SinkAdapter) :
    readAndWrite world ctx.dropSinkExtra sink.dropExtra = readAndWrite world ctx sink := rfl

/-- Copying does not look at it. -/
theorem copyFiles_dropExtra (source : PathSourceConfig) (sink : SinkAdapter) :
    copyFiles world source sink.dropExtra = copyFiles world source sink := rfl

/-- The whole task does not look at it. -/
theorem bodyFrom_dropSinkExtra (ctx : RunContext) :
    bodyFrom (pure ctx.dropSinkExtra) world = bodyFrom (pure ctx) world := by
  have hvalidate (ctx : RunContext) :
      validateSource world ctx.dropSinkExtra = validateSource world ctx := rfl
  have hsource (ctx : RunContext) : ctx.dropSinkExtra.sourceConfig = ctx.sourceConfig := rfl
  simp only [bodyFrom, ReadAdapterFactory.create, WriteAdapterFactory.create, bind_bind_eq,
    pure_bind_eq, RunContext.constructSource_dropSinkExtra,
    RunContext.constructSink_dropSinkExtra, hvalidate, hsource,
    SinkAdapter.validateConnection_dropExtra, readAndWrite_dropExtra, copyFiles_dropExtra]

/-- The body of `execute` pulls its run context from XCom. -/
theorem body_eq (op : SparkRunOperator) :
    op.body world = bodyFrom (op.pullContext world) world := by
  simp only [body, setUp, bind_bind_eq, pure_bind_eq]
  rfl

/-- The pull of a coherent run context gives it back, without the `extra` of the sink. -/
theorem pullContext_toDict (op : SparkRunOperator) {ctx : RunContext} (h : ctx.Coherent)
    (hxcom : world.xcom = .ok (some ctx.toDict)) :
    op.pullContext world = pure ctx.dropSinkExtra := by
  funext s
  have hraw : (step world.xcom : SparkAction ρ (Option ContextDict)) s =
      ⟨.ok (some ctx.toDict), s, []⟩ := by
    rw [hxcom]
    rfl
  rw [pullContext, bind_of_silent hraw]
  change (step (RunContext.fromDict ctx.toDict) : SparkAction ρ RunContext) s = _
  rw [RunContext.fromDict_toDict h]
  rfl

end SparkRunOperator

/-- **The envelope preserves what the Spark task does.** For every run context that the init
task can push, every Spark session, every sink and metric backend and every failure of a call:
executing the task on the serialised context gives the same result or exception, leaves the
same state and makes the same log entries as executing it on the run context itself. -/
theorem execute_envelope {env : InitOperator.Env} {cfg : PipelineConfig} {ctx : RunContext}
    (h : InitOperator.execute env cfg = .ok ctx) (op : SparkRunOperator) (world : SparkWorld ρ)
    (dagId runId : Text) :
    op.execute { world with xcom := .ok (some ctx.toDict) } dagId runId =
      op.executeOn ctx world dagId runId := by
  have hbody : op.body { world with xcom := .ok (some ctx.toDict) } =
      SparkRunOperator.bodyFrom (pure ctx) world := by
    rw [SparkRunOperator.body_eq,
      op.pullContext_toDict _ (InitOperator.coherent_of_execute h) rfl]
    exact SparkRunOperator.bodyFrom_dropSinkExtra world ctx
  rw [SparkRunOperator.execute, hbody]
  rfl

/-- The Spark task of a run whose sink has an additional parameter. -/
theorem execute_envelope_zstd :
    ∃ ctx, InitOperator.execute ordersEnv
        (ordersConfig "sql" ordersTable [("compression".toList, .str "zstd".toList)]) = .ok ctx ∧
      ordersSparkRun.execute { xcomOutage with xcom := .ok (some ctx.toDict) } [] [] =
        ordersSparkRun.executeOn ctx xcomOutage [] [] := by
  have hexecute : ∃ ctx, InitOperator.execute ordersEnv (ordersConfig "sql" ordersTable
      [("compression".toList, .str "zstd".toList)]) = .ok ctx := ⟨_, rfl⟩
  obtain ⟨ctx, hctx⟩ := hexecute
  exact ⟨ctx, hctx, execute_envelope hctx ordersSparkRun xcomOutage [] []⟩

end BatchIngestion
