import BatchIngestion.SparkRun

/-!
# What the steps of the Spark task log and store

One lemma for each procedure: its log entries are good as soon as the entries of the kinds that
it can make are, and it keeps the state, or at least what is stored, unless it saves. Every step
can log an exception.
-/

namespace BatchIngestion

open Python Library SparkAction Procedure

variable {ρ : Type} {good : SparkEvent ρ → Prop} {world : SparkWorld ρ} {sink : SinkAdapter}

/-- A procedure that makes good entries and leaves the state alone. -/
abbrev KeepsState {α : Type} (good : SparkEvent ρ → Prop) (x : SparkAction ρ α) : Prop :=
  Quiet id good x

/-- A procedure that makes good entries and leaves alone what is stored. -/
abbrev StoresNothing {α : Type} (good : SparkEvent ρ → Prop) (x : SparkAction ρ α) : Prop :=
  Quiet SparkState.stored good x

/-- Configuring Hadoop stores nothing. -/
theorem SparkState.stored_configureHadoop (credentials : Secret) (s : SparkState ρ) :
    (s.configureHadoop credentials).stored = s.stored := by
  unfold configureHadoop
  dsimp only
  split <;> split <;> rfl

/-- A sink whose write path can be built. -/
def SinkConfig.HasPath (cfg : SinkConfig) : Prop := ∃ path, buildWritePath cfg = .ok path

/-- The constructors of the adapters keep the kind of the source. -/
theorem RunContext.hasPath_constructSink {ctx : RunContext}
    (h : ctx.sinkConfig.sourceConfig.isTableOrPath = true) :
    ctx.constructSource.constructSink.config.HasPath := by
  refine exists_buildWritePath_iff.mpr ?_
  have hsource : ctx.constructSource.sinkConfig.sourceConfig.isTableOrPath = true := by
    unfold constructSource
    split
    · rfl
    · exact h
  unfold constructSink
  dsimp only
  split <;> exact hsource

/-- The constructor of the source adapter keeps the adapter types and the credentials. -/
theorem RunContext.constructSource_keeps (ctx : RunContext) :
    ctx.constructSource.readType = ctx.readType ∧
      ctx.constructSource.writeType = ctx.writeType ∧
      ctx.constructSource.sourceCredentials = ctx.sourceCredentials ∧
      ctx.constructSource.sinkCredentials = ctx.sinkCredentials := by
  unfold constructSource
  split <;> exact ⟨rfl, rfl, rfl, rfl⟩

/-- The constructor of the source adapter. -/
theorem ReadAdapterFactory.quiet_create (h : ∀ e, good (.raised e)) (ctx : RunContext) :
    KeepsState good (create world ctx) :=
  (Quiet.attempt h _).bind fun _ => Quiet.ret _

/-- The constructor of the sink adapter. -/
theorem WriteAdapterFactory.quiet_create (h : ∀ e, good (.raised e)) (ctx : RunContext) :
    KeepsState good (create world ctx) :=
  (Quiet.attempt h _).bind fun _ => Quiet.ret _

/-- The context after the constructor of the source adapter. -/
theorem ReadAdapterFactory.returns_create (ctx : RunContext) :
    Returns (create world ctx) (· = ctx.constructSource) :=
  Returns.bind (Returns.attempt _) fun _ _ => Triple.ret fun _ _ => rfl

/-- The sink adapter. -/
theorem WriteAdapterFactory.returns_create (ctx : RunContext) :
    Returns (create world ctx) (· = ctx.constructSink) :=
  Returns.bind (Returns.attempt _) fun _ _ => Triple.ret fun _ _ => rfl

/-- Validating the source. -/
theorem quiet_validateSource (h : ∀ e, good (.raised e)) (ctx : RunContext) :
    StoresNothing good (validateSource world ctx) := by
  refine Quiet.bind ?_ fun _ => Quiet.attempt h _
  unfold configureSource
  split
  · exact (Quiet.attempt h _).bind fun _ => .modify fun s => s.stored_configureHadoop _
  · exact (Quiet.attempt h _).bind fun _ => .modify fun _ => rfl
  · exact .ret _

namespace SinkAdapter

/-- Configuring the file system of the sink. -/
theorem quiet_configure (h : ∀ e, good (.raised e)) (use : FileSystemUse) :
    StoresNothing good (sink.configure world use) := by
  refine (Quiet.attempt h _).bind fun _ => ?_
  split
  · exact .modify fun s => s.stored_configureHadoop _
  · exact .modify fun _ => rfl

/-- Validating the sink. -/
theorem quiet_validateConnection (h : ∀ e, good (.raised e)) :
    StoresNothing good (sink.validateConnection world) := by
  refine Quiet.bind ?_ fun _ => Quiet.attempt h _
  unfold configureForCheck
  split
  · exact quiet_configure h _
  · exact .ret _

/-- The hook after a write. -/
theorem quiet_postWrite (h : ∀ e, good (.raised e)) :
    KeepsState good (sink.postWrite : SparkAction ρ Unit) :=
  (Quiet.attempt h _).bind fun _ => .ret ()

/-- The error hook. -/
theorem quiet_onError (h : ∀ e, good (.raised e)) {e : PyExc} (honError : good (.onError e)) :
    KeepsState good (sink.onError e : SparkAction ρ Unit) :=
  (Quiet.emit honError).bind fun _ => (Quiet.attempt h _).bind fun _ => .ret ()

/-- The look at the schema. -/
theorem quiet_shapeFrame (h : ∀ e, good (.raised e)) :
    KeepsState good (sink.shapeFrame world) := by
  unfold shapeFrame
  split
  · exact .attempt h _
  · exact .ret _

/-- A write has a body under the error hook. -/
theorem exists_body_write (sink : SinkAdapter) (world : SparkWorld ρ) (good : SparkEvent ρ → Prop)
    (h : ∀ e, good (.raised e)) (hsaving : ∀ fields f p path, good (.saving fields f p path))
    (hsaved : ∀ m path rows, good (.saved m path rows)) (df : DataFrame ρ) :
    ∃ body : SparkAction ρ Unit,
      sink.write world df = onException body sink.onError ∧ Logs good body := by
  refine ⟨_, rfl, ?_⟩
  refine (quiet_configure h _).logs.bind fun _ => (quiet_shapeFrame h).logs.bind fun _ => ?_
  refine (Logs.attempt h _).bind fun _ => (Logs.attempt h _).bind fun _ => ?_
  refine (Logs.attempt h _).bind fun _ => (Logs.attempt h _).bind fun _ => ?_
  refine (Logs.emit (hsaving _ _ _ _)).bind fun _ => (Logs.attempt h _).bind fun _ => ?_
  refine (Logs.modify _).bind fun _ => (Logs.emit (hsaved _ _ _)).bind fun _ => ?_
  exact (quiet_postWrite h).logs

/-- A write. -/
theorem logs_write (h : ∀ e, good (.raised e)) (honError : ∀ e, good (.onError e))
    (hsaving : ∀ fields f p path, good (.saving fields f p path))
    (hsaved : ∀ m path rows, good (.saved m path rows)) (df : DataFrame ρ) :
    Logs good (sink.write world df) := by
  obtain ⟨body, hwrite, hbody⟩ := exists_body_write sink world good h hsaving hsaved df
  rw [hwrite]
  exact Triple.onException hbody fun e => (quiet_onError h (honError e)).logs

/-- A copy. -/
theorem quiet_copyFrom (h : ∀ e, good (.raised e)) (honError : ∀ e, good (.onError e))
    (hcopying : ∀ source dest conf, good (.copying source dest conf)) (source dest : Text) :
    StoresNothing good (sink.copyFrom world source dest) := by
  refine Quiet.onException ?_ fun e => (quiet_onError h (honError e)).of_id
  refine (quiet_configure h _).bind fun _ => (Quiet.attempt h _).bind fun _ => ?_
  refine Quiet.read.bind fun _ => (Quiet.emit (hcopying _ _ _)).bind fun _ => ?_
  refine (Quiet.attempt h _).bind fun _ => (Quiet.attempt h _).bind fun _ => ?_
  exact (quiet_postWrite h).of_id

end SinkAdapter

namespace SparkRunOperator

variable {op : SparkRunOperator}

/-- Decoding the context. -/
theorem quiet_pullContext (h : ∀ e, good (.raised e)) :
    KeepsState good (op.pullContext world) := by
  refine (Quiet.attempt h _).bind fun _ => ?_
  split <;> exact .attempt h _

/-- What is decoded is the context that was pulled. -/
theorem returns_pullContext (op : SparkRunOperator) : Returns (op.pullContext world) fun ctx =>
    ∃ raw, world.xcom = .ok (some raw) ∧ RunContext.fromDict raw = .ok ctx := by
  refine Returns.bind (Returns.attempt _) fun raw hraw => ?_
  cases raw with
  | none => exact (Returns.attempt _).conseq (fun _ hs => hs) fun _ _ h => by cases h
  | some raw => exact (Returns.attempt _).conseq (fun _ hs => hs) fun _ _ h => ⟨raw, hraw, h⟩

/-- Setting up the task. -/
theorem quiet_setUp (h : ∀ e, good (.raised e)) : KeepsState good (op.setUp world) := by
  refine (quiet_pullContext h).bind fun ctx => (Quiet.attempt h _).bind fun _ => ?_
  refine (ReadAdapterFactory.quiet_create h _).bind fun ctx => ?_
  exact (WriteAdapterFactory.quiet_create h _).bind fun sink => .ret _

/-- What is set up are the adapters of the context that was pulled. -/
theorem returns_setUp (op : SparkRunOperator) : Returns (op.setUp world) fun task =>
    ∃ raw ctx, world.xcom = .ok (some raw) ∧ RunContext.fromDict raw = .ok ctx ∧
      task = ⟨ctx.constructSource, ctx.constructSource.constructSink⟩ := by
  refine (returns_pullContext op).bind fun ctx ⟨raw, hraw, hdecoded⟩ => ?_
  refine (Returns.attempt _).bind fun _ _ => ?_
  refine (ReadAdapterFactory.returns_create ctx).bind fun source hsource => ?_
  refine (WriteAdapterFactory.returns_create source).bind fun sink hsink => ?_
  subst hsource hsink
  exact Triple.ret fun _ _ => ⟨raw, ctx, hraw, hdecoded, rfl⟩

/-- The optional count. -/
theorem quiet_countRecords (h : ∀ e, good (.raised e)) (ctx : RunContext) :
    KeepsState good (countRecords world ctx) := by
  unfold countRecords
  split
  · exact (Quiet.attempt h _).bind fun _ => (Quiet.attempt h _).bind fun _ => .attempt h _
  · exact .ret _

/-- Releasing what was cached. -/
theorem quiet_unpersist (h : ∀ e, good (.raised e)) (ctx : RunContext) :
    KeepsState good (unpersist world ctx) := by
  unfold unpersist
  split
  · exact .attempt h _
  · exact .ret _

/-- Reading and writing. -/
theorem logs_readAndWrite (h : ∀ e, good (.raised e)) (honError : ∀ e, good (.onError e))
    (hsaving : ∀ fields f p path, good (.saving fields f p path))
    (hsaved : ∀ m path rows, good (.saved m path rows)) (ctx : RunContext) :
    Logs good (readAndWrite world ctx sink) := by
  refine (Logs.attempt h _).bind fun _ => (Logs.attempt h _).bind fun _ => ?_
  refine (quiet_countRecords h _).logs.bind fun _ => (Logs.attempt h _).bind fun _ => ?_
  exact (SinkAdapter.logs_write h honError hsaving hsaved _).bind fun _ =>
    (quiet_unpersist h _).logs

/-- The steps of the task. -/
theorem logs_body (h : ∀ e, good (.raised e)) (honError : ∀ e, good (.onError e))
    (hsaving : ∀ fields f p path, good (.saving fields f p path))
    (hsaved : ∀ m path rows, good (.saved m path rows))
    (hcopying : ∀ source dest conf, good (.copying source dest conf)) :
    Logs good (op.body world) := by
  refine (quiet_setUp h).logs.bind fun task => ?_
  refine (quiet_validateSource h _).logs.bind fun _ => ?_
  refine (SinkAdapter.quiet_validateConnection h).logs.bind fun _ => ?_
  split
  · exact (Logs.attempt h _).bind fun _ => (SinkAdapter.quiet_copyFrom h honError hcopying _ _).logs
  · exact logs_readAndWrite h honError hsaving hsaved _

/-- The failure metric. -/
theorem quiet_pushFailureMetric (hpushing : ∀ payload, good (.pushing payload))
    (hmetric : ∀ event, good (.metric event)) (dagId runId : Text) (e : PyExc) :
    KeepsState good (op.pushFailureMetric world dagId runId e) := by
  unfold pushFailureMetric
  split
  · exact (Quiet.emit (hpushing _)).bind fun _ => .lift hmetric
  · exact .ret _

end SparkRunOperator

end BatchIngestion
