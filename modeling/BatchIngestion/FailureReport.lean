import BatchIngestion.SparkLog

/-!
# How a failing Spark task ends

Whatever step raises, the exception that leaves `execute` is the first one raised, nothing is
saved or copied afterwards, and the failure metric is pushed once. The handler of the sink runs
code of its own, which cannot raise for the sources that a sink accepts.
-/

namespace BatchIngestion

open Python Library SparkAction Procedure

variable {ρ : Type}

/-! ### The first failure leaves the task -/

/-- A save or a copy starts. -/
def SparkEvent.IsWrite : SparkEvent ρ → Prop
  | .saving _ _ _ _ | .copying _ _ _ => True
  | _ => False

/-- A procedure that lets its first failure through and writes nothing after it. -/
abbrev Faithful {α : Type} (x : SparkAction ρ α) : Prop :=
  Reports SparkEvent.raised SparkEvent.IsWrite x

/-- The error hook of a sink with a path does no harm. -/
theorem SinkAdapter.harmless_onError {sink : SinkAdapter} (h : sink.config.HasPath) (e : PyExc) :
    Harmless SparkEvent.IsWrite (sink.onError e : SparkAction ρ Unit) := by
  obtain ⟨path, hpath⟩ := h
  exact (Harmless.emit id).bind fun _ => (Harmless.attempt hpath).bind fun _ => .ret ()

variable {world : SparkWorld ρ} {sink : SinkAdapter}

/-- Configuring the file system of the sink. -/
theorem SinkAdapter.faithful_configure (use : FileSystemUse) :
    Faithful (sink.configure world use) := by
  refine (Reports.attempt _).bind fun _ => ?_
  split <;> exact .modify _

/-- Validating the sink. -/
theorem SinkAdapter.faithful_validateConnection : Faithful (sink.validateConnection world) := by
  refine Reports.bind ?_ fun _ => Reports.attempt _
  unfold configureForCheck
  split
  · exact faithful_configure _
  · exact .ret _

/-- The hook after a write. -/
theorem SinkAdapter.faithful_postWrite : Faithful (sink.postWrite : SparkAction ρ Unit) :=
  (Reports.attempt _).bind fun _ => .ret ()

/-- The look at the schema. -/
theorem SinkAdapter.faithful_shapeFrame : Faithful (sink.shapeFrame world) := by
  unfold shapeFrame
  split
  · exact .attempt _
  · exact .ret _

/-- A write. -/
theorem SinkAdapter.faithful_write (h : sink.config.HasPath) (df : DataFrame ρ) :
    Faithful (sink.write world df) := by
  refine Reports.onException ?_ (harmless_onError h)
  refine (faithful_configure _).bind fun _ => faithful_shapeFrame.bind fun _ => ?_
  refine (Reports.attempt _).bind fun _ => (Reports.attempt _).bind fun path => ?_
  refine (Reports.attempt _).bind fun _ => (Reports.attempt _).bind fun _ => ?_
  refine Reports.bind (.emit fun _ h => by cases h) fun _ => ?_
  refine (Reports.attempt _).bind fun _ => (Reports.modify _).bind fun _ => ?_
  exact Reports.bind (.emit fun _ h => by cases h) fun _ => faithful_postWrite

/-- A copy. -/
theorem SinkAdapter.faithful_copyFrom (h : sink.config.HasPath) (source dest : Text) :
    Faithful (sink.copyFrom world source dest) := by
  refine Reports.onException ?_ (harmless_onError h)
  refine (faithful_configure _).bind fun _ => (Reports.attempt _).bind fun _ => ?_
  refine Reports.read.bind fun s => Reports.bind (.emit fun _ h => by cases h) fun _ => ?_
  refine (Reports.attempt _).bind fun _ => (Reports.attempt _).bind fun _ => faithful_postWrite

/-- Validating the source. -/
theorem faithful_validateSource (ctx : RunContext) : Faithful (validateSource world ctx) := by
  refine Reports.bind ?_ fun _ => Reports.attempt _
  unfold configureSource
  split
  · exact (Reports.attempt _).bind fun _ => .modify _
  · exact (Reports.attempt _).bind fun _ => .modify _
  · exact .ret _

namespace SparkRunOperator

/-- Decoding the context. -/
theorem faithful_pullContext (op : SparkRunOperator) : Faithful (op.pullContext world) := by
  refine (Reports.attempt _).bind fun raw => ?_
  split <;> exact .attempt _

/-- Reading and writing. -/
theorem faithful_readAndWrite (h : sink.config.HasPath) (ctx : RunContext) :
    Faithful (readAndWrite world ctx sink) := by
  refine (Reports.attempt _).bind fun _ => (Reports.attempt _).bind fun _ => ?_
  refine Reports.bind ?_ fun _ => (Reports.attempt _).bind fun _ => ?_
  · unfold countRecords
    split
    · exact (Reports.attempt _).bind fun _ => (Reports.attempt _).bind fun _ => .attempt _
    · exact .ret _
  · refine (SinkAdapter.faithful_write h _).bind fun _ => ?_
    unfold unpersist
    split
    · exact .attempt _
    · exact .ret _

/-- Setting up the task. -/
theorem faithful_setUp (op : SparkRunOperator) : Faithful (op.setUp world) := by
  refine (faithful_pullContext op).bind fun ctx => (Reports.attempt _).bind fun _ => ?_
  refine Reports.bind ((Reports.attempt _).bind fun _ => .ret _) fun ctx => ?_
  exact Reports.bind ((Reports.attempt _).bind fun _ => .ret _) fun sink => .ret _

/-- The steps of the task let the first failure through. -/
theorem faithful_body (op : SparkRunOperator) : Faithful (op.body world) := by
  refine (faithful_setUp op).bind_of_returns (returns_setUp op) fun task htask => ?_
  obtain ⟨raw, ctx, -, hdecoded, rfl⟩ := htask
  have hpath := RunContext.hasPath_constructSink (RunContext.isTableOrPath_of_fromDict hdecoded)
  refine (faithful_validateSource _).bind fun _ => ?_
  refine SinkAdapter.faithful_validateConnection.bind fun _ => ?_
  split
  · exact (Reports.attempt _).bind fun dest => SinkAdapter.faithful_copyFrom hpath _ _
  · exact faithful_readAndWrite hpath _

end SparkRunOperator

/-! ### The failure metric -/

/-- The payload of a push. -/
def SparkEvent.payload? : SparkEvent ρ → Option (Dict Text Value)
  | .pushing payload => some payload
  | _ => none

/-- A failing run has reported its failure `e` in its log. -/
structure ReportsFailure (op : SparkRunOperator) (world : SparkWorld ρ) (dagId runId : Text)
    (e : PyExc) (log : List (SparkEvent ρ)) : Prop where
  /-- `e` was raised first, and no save or copy starts after it. -/
  first : ∃ before after, log = before ++ .raised e :: after ∧ (∀ e', .raised e' ∉ before) ∧
    ∀ w ∈ after, ¬ w.IsWrite
  /-- The failure metric is pushed once if it is configured. -/
  pushed : log.filterMap SparkEvent.payload? =
    if op.metricType.isSome ∧ op.metricConfigRaw.isSome then [failureValues dagId runId e] else []
  /-- It is published if the metric backend is healthy. -/
  published : ∀ metricType raw adapter, op.metricType = some metricType →
    op.metricConfigRaw = some raw → world.metric.Healthy metricType raw adapter →
    ∃ m, adapter.message world.metric.backend.now (failureValues dagId runId e) = .ok m ∧
      .metric (.accepted m) ∈ log

namespace SparkRunOperator

/-- Nothing but the failure metric is pushed. -/
theorem payloads_body (op : SparkRunOperator) (s : SparkState ρ) :
    (op.body world s).log.filterMap SparkEvent.payload? = [] := by
  have hlogs : Logs (fun w => w.payload? = none) (op.body world) :=
    logs_body (fun _ => rfl) (fun _ => rfl) (fun _ _ _ _ => rfl) (fun _ _ _ => rfl)
      fun _ _ _ => rfl
  exact List.filterMap_eq_nil_iff.mpr (hlogs s trivial).1

/-- The push returns, and saves and copies nothing. -/
theorem harmless_pushFailureMetric (op : SparkRunOperator) (dagId runId : Text) (e : PyExc) :
    Harmless SparkEvent.IsWrite (op.pushFailureMetric world dagId runId e) := by
  refine fun s => ⟨⟨(), ?_⟩, ?_⟩
  · unfold pushFailureMetric
    cases op.metricType with
    | none => rfl
    | some metricType =>
      cases op.metricConfigRaw with
      | none => rfl
      | some raw => exact pushMetricInline_result _ _ _ _
  · have hquiet : KeepsState (fun w => ¬ w.IsWrite) (op.pushFailureMetric world dagId runId e) :=
      quiet_pushFailureMetric (fun _ h => h) (fun _ h => h) dagId runId e
    exact (hquiet s).1

/-- The push is made once. -/
theorem payloads_pushFailureMetric (op : SparkRunOperator) (dagId runId : Text) (e : PyExc)
    (s : SparkState ρ) :
    (op.pushFailureMetric world dagId runId e s).log.filterMap SparkEvent.payload? =
      if op.metricType.isSome ∧ op.metricConfigRaw.isSome then [failureValues dagId runId e]
      else [] := by
  unfold pushFailureMetric
  cases op.metricType with
  | none => rfl
  | some metricType =>
    cases op.metricConfigRaw with
    | none => rfl
    | some raw =>
      have hmetric : ∀ log : List MetricEvent,
          (log.map SparkEvent.metric).filterMap (SparkEvent.payload? (ρ := ρ)) = [] := by
        intro log
        rw [List.filterMap_map]
        exact List.filterMap_eq_nil_iff.mpr fun _ _ => rfl
      change failureValues dagId runId e :: List.filterMap _ (List.map _ _) = _
      rw [hmetric]
      rfl

/-- The values of a failure payload are strings. -/
theorem exists_str_of_mem_failureValues {dagId runId : Text} {e : PyExc} {item : Text × Value}
    (h : item ∈ failureValues dagId runId e) : ∃ s, item.2 = .str s := by
  simp only [failureValues, failurePayload, List.map_cons, List.map_nil, List.mem_cons,
    List.not_mem_nil, or_false] at h
  rcases h with rfl | rfl | rfl | rfl <;> exact ⟨_, rfl⟩

/-- A healthy backend publishes the push. -/
theorem accepted_of_pushFailureMetric {op : SparkRunOperator} {metricType : MetricAdapterType}
    {raw : MetricConfigRaw} {adapter : QueueAdapter} (htype : op.metricType = some metricType)
    (hraw : op.metricConfigRaw = some raw) (h : world.metric.Healthy metricType raw adapter)
    (dagId runId : Text) (e : PyExc) (s : SparkState ρ) :
    ∃ m, adapter.message world.metric.backend.now (failureValues dagId runId e) = .ok m ∧
      .metric (.accepted m) ∈ (op.pushFailureMetric world dagId runId e s).log := by
  have hstrings : ∀ item ∈ failureValues dagId runId e, ∃ s, item.2 = Value.str s :=
    fun _ => exists_str_of_mem_failureValues
  obtain ⟨m, hm⟩ := adapter.exists_message_of_strings world.metric.backend.now hstrings
  refine ⟨m, hm, ?_⟩
  rw [pushFailureMetric, htype, hraw]
  exact List.mem_cons_of_mem _ (List.mem_map_of_mem (h.accepted hm))

/-- What a run logs that raises. -/
theorem log_execute_of_error {op : SparkRunOperator} {dagId runId : Text} {e : PyExc}
    {s : SparkState ρ} (h : (op.execute world dagId runId s).result = .error e) :
    (op.execute world dagId runId s).log = (op.body world s).log ++
      (op.pushFailureMetric world dagId runId e (op.body world s).state).log := by
  unfold execute at h ⊢
  cases hbody : (op.body world s).result with
  | ok a =>
    rw [onException_of_ok hbody] at h
    cases h
  | error e' =>
    obtain ⟨a, ha⟩ := (op.harmless_pushFailureMetric dagId runId e' (op.body world s).state).1
    rw [onException_of_error hbody, ha] at h
    obtain rfl := Except.error.inj h
    rw [onException_of_error hbody]

end SparkRunOperator

/-- **A failing run reports once, hides nothing and writes nothing more**: a run that returns has
raised nothing, and a run that raises has reported what it raised. -/
theorem execute_reportsFailure (op : SparkRunOperator) (world : SparkWorld ρ) (dagId runId : Text)
    (s : SparkState ρ) :
    ((op.execute world dagId runId s).result = .ok () →
      ∀ e, .raised e ∉ (op.execute world dagId runId s).log) ∧
    ∀ e, (op.execute world dagId runId s).result = .error e →
      ReportsFailure op world dagId runId e (op.execute world dagId runId s).log := by
  have hfaithful : Faithful (op.execute world dagId runId) :=
    Reports.onException (op.faithful_body) fun e => op.harmless_pushFailureMetric dagId runId e
  refine ⟨(hfaithful s).1 (), fun e he => ⟨(hfaithful s).2 e he, ?_, ?_⟩⟩
  · rw [SparkRunOperator.log_execute_of_error he, List.filterMap_append, op.payloads_body,
      op.payloads_pushFailureMetric, List.nil_append]
  · intro metricType raw adapter htype hraw hhealthy
    obtain ⟨m, hm, hmem⟩ := SparkRunOperator.accepted_of_pushFailureMetric htype hraw hhealthy
      dagId runId e (op.body world s).state
    rw [SparkRunOperator.log_execute_of_error he]
    exact ⟨m, hm, List.mem_append_right _ hmem⟩

/-- The Spark task of a DAG with a metric queue. -/
def ordersSparkRun : SparkRunOperator where
  initTaskId := "init"
  xcomKey := "run_context"
  metricType := some .cloudQueue
  metricConfigRaw := some { queueUrl := some "https://sqs/orders".toList }

/-- The queue of the DAG. -/
def ordersQueue : QueueAdapter where
  config := .sqs { queueUrl := "https://sqs/orders".toList, awsRegion := [] }
  messageAttributes := []

/-- A run that cannot reach the metadata database, with a metric queue that works. -/
def xcomOutage : SparkWorld Unit where
  xcom := .error (.external "OperationalError")
  call _ := .ok ()
  frame := { fields := [], rows := [] }
  reshape _ row := row
  copied := true
  metric := {
    getSecret := fun _ => .ok {}
    validate := .ok true
    backend := {
      now := "2024-01-01T00:00:00+00:00"
      create := .ok ()
      send := .ok ()
      flush := .delivered } }

/-- A session without configuration and data. -/
def freshSession : SparkState Unit where
  hadoopConf := []
  hadoopUser := none
  stored _ := []

/-- The outage is reported, and the failure metric published. -/
theorem execute_reportsFailure_orders :
    ReportsFailure ordersSparkRun xcomOutage "orders" "manual" (.external "OperationalError")
        (ordersSparkRun.execute xcomOutage "orders" "manual" freshSession).log ∧
      xcomOutage.metric.Healthy .cloudQueue { queueUrl := some "https://sqs/orders".toList }
        ordersQueue :=
  ⟨(execute_reportsFailure ordersSparkRun xcomOutage "orders" "manual" freshSession).2 _ rfl,
    ⟨rfl, ⟨true, rfl⟩, rfl, rfl, rfl⟩⟩

end BatchIngestion
