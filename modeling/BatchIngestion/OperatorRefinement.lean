import BatchIngestion.SparkAttempt
import BatchIngestion.Stretch

/-!
# The operators refine the pipelines

What the code of the operators does to the stores, the sink and the queues is what the
steps of the pipelines do: every history of a deployment is followed by an execution of
the transition system, in which a run goes through the steps that the code has taken so
far. The sink holds every batch that the system has landed, and a queue has accepted no
metric but the ones that the system has published.
-/

namespace BatchIngestion

open Python Library Procedure SparkAction

variable {ι σ ρ : Type}

/-! ### The run of a task -/

/-- The checkpoints that a Spark task decodes. -/
def ContextDict.window (raw : ContextDict) :
    Option (Option CheckpointValue × Option CheckpointValue) := do
  let checkpointFrom ← (deserialiseCheckpoint raw.checkpointFrom).toOption
  let checkpointTo ← (deserialiseCheckpoint raw.checkpointTo).toOption
  return (checkpointFrom, checkpointTo)

/-- The run that has taken the steps that an attempt has taken. -/
def TaskRun.toRun (source : Source σ (List ρ)) (r : TaskRun ρ) : Run (List ρ) :=
  match r.task with
  | .init => {
      task := .init
      todo := if r.native.isSome then [.pushContext]
        else if r.row.isSome then [.fetchCheckpointTo, .pushContext] else source.steps .init
      checkpointFrom := r.row.map (Option.map parseText)
      checkpointTo := r.native.map
        (InitOperator.fetchCheckpointTo source.readType source.config) }
  | .sparkRun =>
    match r.frame with
    | none => {
        task := .sparkRun
        todo := source.steps .sparkRun
        xcom := r.context.map ContextDict.xcom }
    | some rows => {
        task := .sparkRun
        todo := if source.countRecords then [.buildWritePath, .write] else [.write]
        xcom := r.context.map ContextDict.xcom
        window := r.context.bind ContextDict.window
        batch := some rows
        recordCount := if source.countRecords then some rows.length else none }
  | .metricPush => {
      task := .metricPush
      todo := source.steps .metricPush
      xcom := r.context.map ContextDict.xcom
      recordCount := r.recordCount }
  | .done => {
      task := .done
      todo := []
      xcom := r.context.map ContextDict.xcom
      recordCount := r.recordCount }

/-- A run context that the init task of a DAG has pushed. -/
structure RunContext.Pushed (ctx : RunContext) (source : Source σ (List ρ)) : Prop where
  /-- Its parts agree. -/
  coherent : ctx.Coherent
  /-- It describes the source. -/
  source_eq : ctx.sourceConfig = source.config
  /-- It says whether the rows are counted. -/
  counts_eq : ctx.countRecords = source.countRecords

/-- A run follows the attempts at its tasks. -/
structure TaskRun.FollowedBy (r : TaskRun ρ) (dag : Dag σ (List ρ)) (run : Run (List ρ)) :
    Prop where
  /-- Both have failed, or neither. -/
  failed_eq : run.failed = r.failed
  /-- A run that goes on has taken the steps of the attempt. -/
  unfailed : r.failed = false → run = r.toRun dag.source
  /-- A run that has failed can be retried from the same place. -/
  restart : r.failed = true → run.restart dag = r.restart.toRun dag.source
  /-- The context of a run is the one of its init task. -/
  context : r.task ≠ .init → ∃ ctx : RunContext, r.context = some ctx.toDict ∧
    ctx.Pushed dag.source

namespace Deployment

/-- The deployment as a system of runs. -/
def system (D : Deployment ι σ ρ) : System ι σ (List ρ) where
  dag := D.dag
  info := D.info
  moves := D.moves

/-- A run sends a message for a payload, through the queue of one of its two operators. -/
inductive Sends (D : Deployment ι σ ρ) (i : ι) (m : QueueMessage) : Payload → Prop
  /-- The Spark task has failed. -/
  | failure {metricType : MetricAdapterType} {raw : MetricConfigRaw} {error : Text}
    (htype : (D.sparkRun i).metricType = some metricType)
    (hraw : (D.sparkRun i).metricConfigRaw = some raw)
    (hcarries : m.Carries metricType raw (failurePayload (D.dag i).dagId (D.runId i) error)) :
    Sends D i m (failurePayload (D.dag i).dagId (D.runId i) error)
  /-- The metric task has published what it has pulled. -/
  | success {stopTime : Text} {pulled : Pulled}
    (hcarries : m.Carries (D.metricType i) (D.metricConfigRaw i)
      ((D.metricPush i).payload (D.dag i).dagId stopTime (D.info i) pulled)) :
    Sends D i m ((D.metricPush i).payload (D.dag i).dagId stopTime (D.info i) pulled)

/-- The state of the pipelines follows the state of the deployment. -/
structure Follows (D : Deployment ι σ ρ) (A : State ι σ (List ρ)) (C : Cluster ι σ ρ) : Prop where
  /-- The sources are the same. -/
  source_eq : A.source = C.source
  /-- Their state is one that they have had. -/
  current : C.source ∈ C.sources
  /-- The checkpoints are the same. -/
  store_eq : A.store = C.store
  /-- The same values were computed as `checkpoint_to`. -/
  reported_eq : reportedIn A.log = C.reported
  /-- Every run follows its attempts. -/
  runs : ∀ i, (C.runs i).FollowedBy (D.dag i) (A.runs i)
  /-- Every read has seen a state of the sources. -/
  reads : ∀ i state b, (i, .read state b) ∈ A.log → state ∈ C.sources
  /-- Every batch that has landed is under a path of the sink. -/
  sink : ∀ i b, Landed A.log i b → ∃ path, b <:+: C.sink path
  /-- Every accepted message was sent for a metric that was published. -/
  accepted : ∀ i m, (i, m) ∈ C.accepted →
    ∃ payload : Payload, (i, .published payload) ∈ A.log ∧ D.Sends i m payload

/-- The DAGs read tables. -/
structure OfTables (D : Deployment ι σ ρ) : Prop where
  /-- No source is a path. -/
  not_path : ∀ i, (D.dag i).source.config.isPath = false
  /-- The size of a batch is the number of its rows. -/
  size : ∀ i rows, (D.dag i).source.size rows = rows.length

end Deployment

section Follow

variable [DecidableEq ι] {D : Deployment ι σ ρ} {A : State ι σ (List ρ)} {C : Cluster ι σ ρ} {i : ι}

/-- A stretch of one run follows what one attempt does. -/
theorem Deployment.Follows.stretched (h : D.Follows A C) {C' : Cluster ι σ ρ}
    {stretch : Stretch σ (List ρ)} {r : TaskRun ρ} (hsource : C'.source = C.source)
    (hsources : C'.sources = C.sources) (hruns : C'.runs = Function.update C.runs i r)
    (hstore : C'.store = Function.update C.store (D.dag i).dagId stretch.row)
    (hreported : C'.reported = stretch.emitted.filterMap Action.reported? ++ C.reported)
    (hrun : r.FollowedBy (D.dag i) stretch.run)
    (hread : ∀ state b, .read state b ∈ stretch.emitted → state = C.source)
    (hsink : ∀ path, C.sink path <:+: C'.sink path)
    (hlanded : ∀ b, .landed b ∈ stretch.emitted → ∃ path, b <:+: C'.sink path)
    (haccepted : ∀ entry ∈ C'.accepted, entry ∈ C.accepted ∨ entry.1 = i ∧
      ∃ payload : Payload, .published payload ∈ stretch.emitted ∧ D.Sends i entry.2 payload) :
    D.Follows (A.stretched (D.dag i).dagId i stretch) C' where
  source_eq := h.source_eq.trans hsource.symm
  current := by
    rw [hsource, hsources]
    exact h.current
  store_eq := by
    rw [hstore, ← h.store_eq]
    rfl
  reported_eq := by
    rw [hreported, ← h.reported_eq, reportedIn, State.stretched, List.filterMap_append,
      List.filterMap_map]
    rfl
  runs j := by
    rw [hruns]
    by_cases hj : j = i
    · subst hj
      simpa [State.stretched] using hrun
    · simpa [State.stretched, hj] using h.runs j
  reads j state b hmem := by
    rw [hsources]
    rcases List.mem_append.mp hmem with hmem | hmem
    · obtain ⟨a, ha, heq⟩ := List.mem_map.mp hmem
      obtain ⟨-, rfl⟩ := Prod.mk.inj heq
      exact hread state b ha ▸ h.current
    · exact h.reads j state b hmem
  sink j b hb := by
    rcases List.mem_append.mp hb with hb | hb
    · obtain ⟨a, ha, heq⟩ := List.mem_map.mp hb
      obtain ⟨-, rfl⟩ := Prod.mk.inj heq
      exact hlanded b ha
    · obtain ⟨path, hpath⟩ := h.sink j b hb
      exact ⟨path, hpath.trans (hsink path)⟩
  accepted j m hm := by
    rcases haccepted (j, m) hm with hm | ⟨hi, payload, hpublished, hsends⟩
    · obtain ⟨payload, hpublished, hsends⟩ := h.accepted j m hm
      exact ⟨payload, List.mem_append_right _ hpublished, hsends⟩
    · obtain rfl : j = i := hi
      exact ⟨payload, List.mem_append_left _ (List.mem_map.mpr ⟨_, hpublished, rfl⟩), hsends⟩

/-! ### The init task -/

omit [DecidableEq ι] in
/-- A run that is in a task has not failed at it. -/
theorem TaskRun.isIn_iff {r : TaskRun ρ} {task : Task} :
    r.isIn task = true ↔ r.task = task ∧ r.failed = false := by
  simp [isIn]

/-- The steps up to the row of checkpoints. -/
theorem Dag.performs_fetchFrom {β : Type} (dag : Dag σ β) (info : RunInfo) (outside : Outside)
    (source : σ) (row : Option Text) :
    dag.performs info outside source 7 { task := .init, todo := dag.source.steps .init } row =
      .ok {
        run := {
          task := .init
          todo := [.fetchCheckpointTo, .pushContext]
          checkpointFrom := some (row.map parseText) }
        emitted := [.fetchedFrom (row.map parseText)]
        row } := by
  cases row <;> rfl

/-- The step that asks the native client. -/
theorem Dag.performs_fetchTo {β : Type} (dag : Dag σ β) (info : RunInfo) (outside : Outside)
    (source : σ) (row : Option Text) (checkpointFrom : Option (Option CheckpointValue)) :
    let native := if outside.sourceUp then dag.source.native source else Native.down
    let value := InitOperator.fetchCheckpointTo dag.source.readType dag.source.config native
    dag.performs info outside source 1
        { task := .init, todo := [.fetchCheckpointTo, .pushContext], checkpointFrom } row =
      .ok {
        run := { task := .init, todo := [.pushContext], checkpointFrom, checkpointTo := some value }
        emitted := [.fetchedTo value]
        row } := rfl

/-- The step that pushes the run context. -/
theorem Dag.performs_pushContext {β : Type} (dag : Dag σ β) (info : RunInfo) (outside : Outside)
    (source : σ) (row : Option Text) (checkpointFrom checkpointTo : Option CheckpointValue) :
    dag.performs info outside source 1
        { task := .init, todo := [.pushContext], checkpointFrom := some checkpointFrom
          checkpointTo := some checkpointTo } row =
      .ok {
        run := {
          task := .init, todo := [], checkpointFrom := some checkpointFrom
          checkpointTo := some checkpointTo
          xcom := some (Xcom.ofCheckpoints checkpointFrom checkpointTo dag.source.readType
            info.ingestionDate) }
        emitted := []
        row } := rfl

/-- The init task reads the row. -/
theorem Deployment.Follows.fetchFrom (h : D.Follows A C) (hin : (C.runs i).isIn .init = true)
    (hrow : (C.runs i).row = none) (hnative : (C.runs i).native = none) :
    ∃ es A', exec D.system.step A es = some A' ∧ D.Follows A'
      (C.setRun i { C.runs i with row := some (C.store (D.dag i).dagId) }) := by
  obtain ⟨htask, hfailed⟩ := TaskRun.isIn_iff.mp hin
  have hrun : A.runs i = { task := .init, todo := (D.dag i).source.steps .init } := by
    rw [(h.runs i).unfailed hfailed]
    simp [TaskRun.toRun, htask, hrow, hnative]
  have hperforms := (D.dag i).performs_fetchFrom (D.info i) .up A.source
    (A.store (D.dag i).dagId)
  rw [← hrun] at hperforms
  refine ⟨_, _, D.system.exec_performs hperforms, ?_⟩
  refine h.stretched (r := { C.runs i with row := some (C.store (D.dag i).dagId) }) rfl rfl rfl ?_
    rfl ?_ (fun _ _ hr => by simp at hr) (fun _ => List.infix_rfl) (fun b hb => ?_)
    fun entry hentry => .inl hentry
  · exact h.store_eq ▸ (Function.update_eq_self _ _).symm
  · refine ⟨hfailed.symm, fun _ => ?_, fun hf => ?_, fun hne => absurd htask hne⟩
    · simp [TaskRun.toRun, htask, hnative, h.store_eq]
    · exact absurd hf (by simp [hfailed])
  · simp at hb

/-- The native client answers. -/
theorem Deployment.Follows.fetchTo (h : D.Follows A C) (hin : (C.runs i).isIn .init = true)
    (hrow : (C.runs i).row.isSome = true) (hnative : (C.runs i).native = none) (sourceUp : Bool) :
    ∃ es A', exec D.system.step A es = some A' ∧ D.Follows A' (D.fetchTo C i sourceUp) := by
  obtain ⟨htask, hfailed⟩ := TaskRun.isIn_iff.mp hin
  have hrun : A.runs i = {
      task := .init
      todo := [.fetchCheckpointTo, .pushContext]
      checkpointFrom := (C.runs i).row.map (Option.map parseText) } := by
    rw [(h.runs i).unfailed hfailed]
    simp [TaskRun.toRun, htask, hrow, hnative]
  have hperforms := (D.dag i).performs_fetchTo (D.info i) { Outside.up with sourceUp } A.source
    (A.store (D.dag i).dagId) ((C.runs i).row.map (Option.map parseText))
  rw [← hrun] at hperforms
  refine ⟨_, _, D.system.exec_performs hperforms, ?_⟩
  refine h.stretched (r := (D.fetchTo C i sourceUp).runs i) rfl rfl ?_ ?_ ?_ ?_
    (fun _ _ hr => by simp at hr) (fun _ => List.infix_rfl) (fun b hb => ?_)
    fun entry hentry => .inl hentry
  · simp [Deployment.fetchTo, Cluster.setRun]
  · exact h.store_eq ▸ (Function.update_eq_self _ _).symm
  · simp only [Deployment.fetchTo, h.source_eq, List.filterMap_cons, List.filterMap_nil,
      Action.reported?]
    cases InitOperator.fetchCheckpointTo (D.dag i).source.readType (D.dag i).source.config
      (if sourceUp = true then (D.dag i).source.native C.source else Native.down) <;> rfl
  · have hr : (D.fetchTo C i sourceUp).runs i = { C.runs i with
        native := some (if sourceUp then (D.dag i).source.native C.source else Native.down) } :=
      Function.update_self ..
    rw [hr]
    refine ⟨hfailed.symm, fun _ => ?_, fun hf => ?_, fun hne => absurd htask hne⟩
    · simp [TaskRun.toRun, htask, h.source_eq]
    · exact absurd hf (by simp [hfailed])
  · simp at hb

/-- The metrics of a stretch. -/
def OnlyMetrics (emitted : List (Action σ (List ρ))) : Prop :=
  ∀ a ∈ emitted, ∃ payload, a = .published payload

/-- Nothing is computed where only metrics are published. -/
theorem OnlyMetrics.reported {emitted : List (Action σ (List ρ))} (h : OnlyMetrics emitted) :
    emitted.filterMap Action.reported? = [] := by
  refine List.filterMap_eq_nil_iff.mpr fun a ha => ?_
  obtain ⟨payload, rfl⟩ := h a ha
  rfl

omit [DecidableEq ι] in
/-- An inline metric is a metric. -/
theorem onlyMetrics_failureMetric (sys : System ι σ (List ρ)) (i : ι) (task : Task) (error : Text)
    (metricUp : Bool) : OnlyMetrics (sys.failureMetric i task error metricUp) := by
  intro a ha
  unfold System.failureMetric at ha
  split at ha
  · exact ⟨_, List.mem_singleton.mp ha⟩
  · cases ha

/-- An attempt fails after some of its steps. -/
theorem Deployment.Follows.fail_after (h : D.Follows A C) {n : ℕ} (outside : Outside)
    {stretch : Stretch σ (List ρ)}
    (hperforms : (D.dag i).performs (D.info i) outside A.source n (A.runs i)
      (A.store (D.dag i).dagId) = .ok stretch)
    (hrow : stretch.row = A.store (D.dag i).dagId) (hunfailed : stretch.run.failed = false)
    (htodo : stretch.run.todo ≠ []) (hemitted : OnlyMetrics stretch.emitted)
    (hrestart : { stretch.run with failed := true }.restart (D.dag i) =
      { C.runs i with failed := true }.restart.toRun (D.dag i).source)
    (error : Text) (metricUp : Bool) {C' : Cluster ι σ ρ} (hsource : C'.source = C.source)
    (hsources : C'.sources = C.sources) (hstore : C'.store = C.store)
    (hreported : C'.reported = C.reported)
    (hruns : C'.runs = Function.update C.runs i { C.runs i with failed := true })
    (hsink : ∀ path, C.sink path <:+: C'.sink path)
    (haccepted : ∀ entry ∈ C'.accepted, entry ∈ C.accepted ∨ entry.1 = i ∧
      ∃ payload : Payload, .published payload ∈ D.system.failureMetric i stretch.run.task error
        metricUp ++ stretch.emitted ∧ D.Sends i entry.2 payload) :
    ∃ es A', exec D.system.step A es = some A' ∧ D.Follows A' C' := by
  have hmetrics : OnlyMetrics (D.system.failureMetric i stretch.run.task error metricUp ++
      stretch.emitted) :=
    List.forall_mem_append.mpr ⟨onlyMetrics_failureMetric _ _ _ _ _, hemitted⟩
  refine ⟨_, _, D.system.exec_failure hperforms hunfailed htodo error metricUp, ?_⟩
  refine h.stretched hsource hsources hruns ?_ ?_ ?_ (fun state b hr => ?_) hsink
    (fun b hb => ?_) haccepted
  · rw [hstore, ← h.store_eq]
    exact hrow ▸ (Function.update_eq_self _ _).symm
  · rw [hmetrics.reported, hreported]
    rfl
  · exact ⟨rfl, fun hf => (by cases hf), fun _ => hrestart, (h.runs i).context⟩
  · obtain ⟨payload, hpayload⟩ := hmetrics _ hr
    cases hpayload
  · obtain ⟨payload, hpayload⟩ := hmetrics _ hb
    cases hpayload

omit [DecidableEq ι] in
/-- A run that has failed in a task can be retried from where its attempt began. -/
theorem TaskRun.restart_toRun {r : TaskRun ρ} (hfailed : r.failed = false) (htask : r.task ≠ .done)
    (dag : Dag σ (List ρ)) :
    { r.toRun dag.source with failed := true }.restart dag =
      { r with failed := true }.restart.toRun dag.source := by
  obtain ⟨task, failed, context, recordCount, row, native, frame⟩ := r
  cases task with
  | init => rfl
  | sparkRun => cases frame <;> rfl
  | metricPush => rfl
  | done => exact absurd rfl htask

omit [DecidableEq ι] in
/-- A run always has a step to take. -/
theorem TaskRun.todo_toRun_ne_nil {r : TaskRun ρ} (htask : r.task ≠ .done)
    (source : Source σ (List ρ)) : (r.toRun source).todo ≠ [] := by
  obtain ⟨task, failed, context, recordCount, row, native, frame⟩ := r
  cases task with
  | init => cases native <;> cases row <;> simp [toRun, Source.steps]
  | sparkRun =>
    cases frame with
    | none => simp [toRun, Source.steps]
    | some rows => cases hcounts : source.countRecords <;> simp [toRun, hcounts]
  | metricPush => simp [toRun, Source.steps]
  | done => exact absurd rfl htask

omit [DecidableEq ι] in
/-- A run is in the task of its attempt. -/
theorem TaskRun.task_toRun (r : TaskRun ρ) (source : Source σ (List ρ)) :
    (r.toRun source).task = r.task ∧ (r.toRun source).failed = false := by
  obtain ⟨task, failed, context, recordCount, row, native, frame⟩ := r
  cases task with
  | sparkRun => cases frame <;> exact ⟨rfl, rfl⟩
  | init | metricPush | done => exact ⟨rfl, rfl⟩

/-- An attempt fails without another step. -/
theorem Deployment.Follows.fail (h : D.Follows A C) (hfailed : (C.runs i).failed = false)
    (htask : (C.runs i).task ≠ .done) (error : Text) (metricUp : Bool) {C' : Cluster ι σ ρ}
    (hsource : C'.source = C.source) (hsources : C'.sources = C.sources)
    (hstore : C'.store = C.store) (hreported : C'.reported = C.reported)
    (hruns : C'.runs = Function.update C.runs i { C.runs i with failed := true })
    (hsink : ∀ path, C.sink path <:+: C'.sink path)
    (haccepted : ∀ entry ∈ C'.accepted, entry ∈ C.accepted ∨ entry.1 = i ∧
      ∃ payload : Payload, .published payload ∈ D.system.failureMetric i (C.runs i).task error
        metricUp ∧ D.Sends i entry.2 payload) :
    ∃ es A', exec D.system.step A es = some A' ∧ D.Follows A' C' := by
  have hrun : A.runs i = (C.runs i).toRun (D.dag i).source := (h.runs i).unfailed hfailed
  obtain ⟨hsame, hgoing⟩ := (C.runs i).task_toRun (D.dag i).source
  refine h.fail_after (n := 0) .up rfl rfl (hrun ▸ hgoing)
    (hrun ▸ TaskRun.todo_toRun_ne_nil htask _) (fun a ha => by cases ha) ?_ error metricUp hsource
    hsources hstore hreported hruns hsink fun entry hentry => (haccepted entry hentry).imp_right ?_
  · exact hrun ▸ TaskRun.restart_toRun hfailed htask _
  · simp only [hrun, hsame, List.append_nil]
    exact id

/-- The checkpoints of a run context are the ones that the calls have answered. -/
theorem InitOperator.checkpoints_of_execute {env : Env} {cfg : PipelineConfig} {ctx : RunContext}
    (h : execute env cfg = .ok ctx) :
    (∃ row, env.checkpointRow = .ok row ∧ parseRow row = .ok ctx.checkpointFrom) ∧
      ctx.checkpointTo = fetchCheckpointTo ctx.readType ctx.sourceConfig env.native := by
  unfold execute at h
  obtain ⟨readType, -, h⟩ := bind_eq_ok_iff.mp h
  obtain ⟨writeType, -, h⟩ := bind_eq_ok_iff.mp h
  obtain ⟨metricType, -, h⟩ := bind_eq_ok_iff.mp h
  obtain ⟨source, -, h⟩ := bind_eq_ok_iff.mp h
  obtain ⟨sink, -, h⟩ := bind_eq_ok_iff.mp h
  obtain ⟨⟨sourceConfig₀, sinkConfig₀⟩, -, h⟩ := bind_eq_ok_iff.mp h
  obtain ⟨sourceCredentials, -, h⟩ := bind_eq_ok_iff.mp h
  obtain ⟨sourceConfig, -, h⟩ := bind_eq_ok_iff.mp h
  obtain ⟨sinkCredentials, -, h⟩ := bind_eq_ok_iff.mp h
  obtain ⟨metricCredentials, -, h⟩ := bind_eq_ok_iff.mp h
  obtain ⟨row, hrow, h⟩ := bind_eq_ok_iff.mp h
  obtain ⟨checkpointFrom, hfrom, h⟩ := bind_eq_ok_iff.mp h
  obtain rfl := Except.ok.inj h
  exact ⟨⟨row, hrow, hfrom⟩, rfl⟩

omit [DecidableEq ι] in
/-- What an init attempt pushes, when it returns. -/
theorem Deployment.xcom_of_initTask {r : TaskRun ρ} {input : InitInput} {ctx : RunContext}
    (h : D.initTask i r input = .ok ctx) {native : Native} (hnative : r.native = some native) :
    ∃ row, r.row = some row ∧ ctx.Coherent ∧
      ctx.toDict.xcom = Xcom.ofCheckpoints (row.map parseText)
        (InitOperator.fetchCheckpointTo ctx.readType ctx.sourceConfig native) ctx.readType
        (D.info i).ingestionDate := by
  obtain ⟨cfg, -, h⟩ := bind_eq_ok_iff.mp h
  obtain ⟨⟨raw, hraw, hfrom⟩, hto⟩ := InitOperator.checkpoints_of_execute h
  have hbuilds := InitOperator.builds_of_execute h
  cases hrow : r.row with
  | none => simp [hrow] at hraw
  | some row =>
    refine ⟨row, rfl, hbuilds.coherent, ?_⟩
    have hparsed : row.map parseText = ctx.checkpointFrom := by
      obtain rfl : row.map .text = raw := by simpa [hrow] using hraw
      rw [parseRow_text] at hfrom
      exact Except.ok.inj hfrom
    have hmax : InitOperator.fetchCheckpointTo ctx.readType ctx.sourceConfig native =
        ctx.checkpointTo := by simpa [hnative] using hto.symm
    rw [RunContext.xcom_toDict, hbuilds.date, hparsed, hmax]
    rfl

/-- The init task pushes a run context. -/
theorem Deployment.Follows.push (h : D.Follows A C) (hin : (C.runs i).isIn .init = true)
    {input : InitInput} {ctx : RunContext} {native : Native}
    (hctx : D.initTask i (C.runs i) input = .ok ctx) (hnative : (C.runs i).native = some native)
    (hdescribes : ctx.readType = (D.dag i).source.readType ∧
      ctx.sourceConfig = (D.dag i).source.config ∧
      ctx.countRecords = (D.dag i).source.countRecords) :
    ∃ es A', exec D.system.step A es = some A' ∧ D.Follows A'
      (C.setRun i { task := .sparkRun, context := some ctx.toDict }) := by
  obtain ⟨htask, hfailed⟩ := TaskRun.isIn_iff.mp hin
  obtain ⟨row, hrow, hcoherent, hxcom⟩ := D.xcom_of_initTask hctx hnative
  obtain ⟨hread, hsource, hcounts⟩ := hdescribes
  have hrun : A.runs i = {
      task := .init
      todo := [.pushContext]
      checkpointFrom := some (row.map parseText)
      checkpointTo := some (InitOperator.fetchCheckpointTo (D.dag i).source.readType
        (D.dag i).source.config native) } := by
    rw [(h.runs i).unfailed hfailed]
    simp [TaskRun.toRun, htask, hrow, hnative]
  have hperforms := (D.dag i).performs_pushContext (D.info i) .up A.source
    (A.store (D.dag i).dagId) (row.map parseText)
    (InitOperator.fetchCheckpointTo (D.dag i).source.readType (D.dag i).source.config native)
  rw [← hrun] at hperforms
  refine ⟨_, _, D.system.exec_task hperforms rfl rfl (by simp), ?_⟩
  refine h.stretched (r := { task := .sparkRun, context := some ctx.toDict }) rfl rfl rfl ?_ rfl ?_
    (fun _ _ hr => by simp at hr) (fun _ => List.infix_rfl) (fun b hb => ?_)
    fun entry hentry => .inl hentry
  · exact h.store_eq ▸ (Function.update_eq_self _ _).symm
  · refine ⟨rfl, fun _ => ?_, fun hf => (by cases hf), fun _ =>
      ⟨ctx, rfl, hcoherent, hsource, hcounts⟩⟩
    rw [hread, hsource] at hxcom
    simp [TaskRun.toRun, Run.advance, Task.following, hxcom, system]
  · simp at hb

/-! ### The Spark task -/

/-- The steps up to the evaluation of the DataFrame. -/
theorem Dag.performs_evaluate {β : Type} {dag : Dag σ β} (hpath : dag.source.config.isPath = false)
    (info : RunInfo) (outside : Outside) {source : σ} (row : Option Text) (xcom : Xcom)
    {f t : Option CheckpointValue} {b : β}
    (hfrom : deserialiseCheckpoint xcom.checkpointFrom = .ok f)
    (hto : deserialiseCheckpoint xcom.checkpointTo = .ok t)
    (hread : dag.source.read source f t = .ok b) :
    dag.performs info outside source (if dag.source.countRecords then 9 else 10)
        { task := .sparkRun, todo := dag.source.steps .sparkRun, xcom := some xcom } row =
      .ok {
        run := {
          task := .sparkRun
          todo := if dag.source.countRecords then [.buildWritePath, .write] else [.write]
          xcom := some xcom
          window := some (f, t)
          batch := some b
          recordCount := if dag.source.countRecords then some (dag.source.size b) else none }
        emitted := [.read source b]
        row } := by
  have hpull (rest : List Step) : dag.performs info outside source 1
      { task := .sparkRun, todo := .pullContext :: rest, xcom := some xcom } row =
        .ok {
          run := { task := .sparkRun, todo := rest, xcom := some xcom, window := some (f, t) }
          emitted := []
          row } := by
    simp [Dag.performs, Step.effect, hfrom, hto]
  cases hcounts : dag.source.countRecords with
  | false =>
    have hsteps : dag.source.steps .sparkRun = [.pullContext, .buildSparkSession, .createSource,
        .createSink, .validateSource, .validateSink, .applyFilters, .read, .buildWritePath, .scan,
        .write] := by
      simp [Source.steps, hpath, hcounts]
    have hscan : dag.performs info outside source 1
        { task := .sparkRun, todo := [.scan, .write], xcom := some xcom, window := some (f, t) }
        row = .ok {
          run := { task := .sparkRun, todo := [.write], xcom := some xcom, window := some (f, t)
                   batch := some b }
          emitted := [.read source b]
          row } := by
      simp [Dag.performs, Step.effect, evaluate, hread]
    have hquiet : dag.performs info outside source 8
        { task := .sparkRun, xcom := some xcom, window := some (f, t)
          todo := [.buildSparkSession, .createSource, .createSink, .validateSource, .validateSink,
            .applyFilters, .read, .buildWritePath, .scan, .write] } row = .ok {
          run := { task := .sparkRun, todo := [.scan, .write], xcom := some xcom
                   window := some (f, t) }
          emitted := []
          row } := rfl
    rw [hsteps]
    exact Dag.performs_add (n := 1) (m := 9) (hpull _) (Dag.performs_add hquiet hscan)
  | true =>
    have hsteps : dag.source.steps .sparkRun = [.pullContext, .buildSparkSession, .createSource,
        .createSink, .validateSource, .validateSink, .applyFilters, .read, .countRecords,
        .buildWritePath, .write] := by
      simp [Source.steps, hpath, hcounts]
    have hcount : dag.performs info outside source 1
        { task := .sparkRun, todo := [.countRecords, .buildWritePath, .write], xcom := some xcom
          window := some (f, t) } row = .ok {
            run := { task := .sparkRun, todo := [.buildWritePath, .write], xcom := some xcom
                     window := some (f, t), batch := some b
                     recordCount := some (dag.source.size b) }
            emitted := [.read source b]
            row } := by
      simp [Dag.performs, Step.effect, evaluate, hread]
    have hquiet : dag.performs info outside source 7
        { task := .sparkRun, xcom := some xcom, window := some (f, t)
          todo := [.buildSparkSession, .createSource, .createSink, .validateSource, .validateSink,
            .applyFilters, .read, .countRecords, .buildWritePath, .write] } row = .ok {
          run := { task := .sparkRun, todo := [.countRecords, .buildWritePath, .write]
                   xcom := some xcom, window := some (f, t) }
          emitted := []
          row } := rfl
    rw [hsteps]
    exact Dag.performs_add (n := 1) (m := 8) (hpull _) (Dag.performs_add hquiet hcount)

omit [DecidableEq ι] in
/-- What a Spark task decodes. -/
theorem RunContext.Pushed.decoded {ctx : RunContext} {source : Source σ (List ρ)}
    (h : ctx.Pushed source) : RunContext.fromDict ctx.toDict = .ok ctx.dropSinkExtra :=
  RunContext.fromDict_toDict h.coherent

/-- The checkpoints that a Spark task decodes are the ones of the run context. -/
theorem RunContext.window_toDict (ctx : RunContext) :
    ctx.toDict.window = some (ctx.checkpointFrom, ctx.checkpointTo) := by
  change (deserialiseCheckpoint (serialiseCheckpoint ctx.checkpointFrom)).toOption.bind _ = _
  rw [deserialiseCheckpoint_serialiseCheckpoint]
  change (deserialiseCheckpoint (serialiseCheckpoint ctx.checkpointTo)).toOption.bind _ = _
  rw [deserialiseCheckpoint_serialiseCheckpoint]
  rfl

/-- Run contexts with the same dictionary have the same window. -/
theorem RunContext.window_eq_of_toDict_eq {ctx ctx' : RunContext} (h : ctx.toDict = ctx'.toDict) :
    ctx.checkpointFrom = ctx'.checkpointFrom ∧ ctx.checkpointTo = ctx'.checkpointTo := by
  have hwindow := ctx.window_toDict
  rw [h, ctx'.window_toDict] at hwindow
  exact Prod.mk.inj (Option.some.inj hwindow.symm)

omit [DecidableEq ι] in
/-- What a Spark task evaluates is the answer of the source to the window of the context that it
decodes. -/
theorem Deployment.exists_read_of_evaluation {rows : List ρ} (h : D.evaluation i C = some rows) :
    ∃ raw ctx, (C.runs i).context = some raw ∧ RunContext.fromDict raw = .ok ctx ∧
      (D.dag i).source.read C.source ctx.checkpointFrom ctx.checkpointTo = .ok rows := by
  obtain ⟨raw, hraw, h⟩ := Option.bind_eq_some_iff.mp h
  obtain ⟨ctx, hctx, h⟩ := Option.bind_eq_some_iff.mp h
  refine ⟨raw, ctx, hraw, ?_, ?_⟩
  · cases hdecoded : RunContext.fromDict raw with
    | error e => simp [hdecoded, Except.toOption] at hctx
    | ok ctx' => simpa [hdecoded, Except.toOption] using hctx
  · cases hread : (D.dag i).source.read C.source ctx.checkpointFrom ctx.checkpointTo with
    | error e => simp [hread, Except.toOption] at h
    | ok b => simpa [hread, Except.toOption] using h

omit [DecidableEq ι] in
/-- The window is the one of the run context that was pushed. -/
theorem Deployment.read_of_evaluation {ctx : RunContext}
    (hctx : (C.runs i).context = some ctx.toDict) (hpushed : ctx.Pushed (D.dag i).source)
    {rows : List ρ} (h : D.evaluation i C = some rows) :
    (D.dag i).source.read C.source ctx.checkpointFrom ctx.checkpointTo = .ok rows := by
  obtain ⟨raw, ctx', hraw, hdecoded, hread⟩ := D.exists_read_of_evaluation h
  obtain rfl := Option.some.inj (hctx.symm.trans hraw)
  obtain rfl := Except.ok.inj (hpushed.decoded.symm.trans hdecoded)
  exact hread

/-- The Spark task evaluates its DataFrame. -/
theorem Deployment.Follows.evaluate (h : D.Follows A C) (htables : D.OfTables)
    (hin : (C.runs i).isIn .sparkRun = true) (hframe : (C.runs i).frame = none) {rows : List ρ}
    (hrows : D.evaluation i C = some rows) :
    ∃ es A', exec D.system.step A es = some A' ∧
      D.Follows A' (C.evaluate i rows) := by
  obtain ⟨htask, hfailed⟩ := TaskRun.isIn_iff.mp hin
  obtain ⟨ctx, hctx, hpushed⟩ := (h.runs i).context (by simp [htask])
  have hread := Deployment.read_of_evaluation hctx hpushed hrows
  rw [← h.source_eq] at hread
  have hrun : A.runs i = {
      task := .sparkRun
      todo := (D.dag i).source.steps .sparkRun
      xcom := some ctx.toDict.xcom } := by
    rw [(h.runs i).unfailed hfailed]
    simp [TaskRun.toRun, htask, hframe, hctx]
  have hperforms := Dag.performs_evaluate (htables.not_path i) (D.info i) .up
    (A.store (D.dag i).dagId) ctx.toDict.xcom
    (deserialiseCheckpoint_serialiseCheckpoint ctx.checkpointFrom)
    (deserialiseCheckpoint_serialiseCheckpoint ctx.checkpointTo) hread
  rw [← hrun] at hperforms
  refine ⟨_, _, D.system.exec_performs hperforms, ?_⟩
  refine h.stretched (r := { C.runs i with frame := some rows }) rfl rfl rfl ?_ rfl ?_
    (fun state b hr => ?_) (fun _ => List.infix_rfl) (fun b hb => ?_)
    fun entry hentry => .inl hentry
  · exact h.store_eq ▸ (Function.update_eq_self _ _).symm
  · refine ⟨hfailed.symm, fun _ => ?_, fun hf => ?_, fun _ => ⟨ctx, hctx, hpushed⟩⟩
    · simp only [TaskRun.toRun, htask, hctx, htables.size i rows, Option.map_some,
        Option.bind_some, ctx.window_toDict]
    · exact absurd hf (by simp [hfailed])
  · obtain ⟨rfl, rfl⟩ : state = A.source ∧ b = rows := by simpa using hr
    exact h.source_eq
  · simp at hb

/-- The steps after the evaluation of the DataFrame. -/
theorem Dag.performs_write {β : Type} (dag : Dag σ β) (info : RunInfo) (outside : Outside)
    (source : σ) (row : Option Text) (xcom : Option Xcom)
    (window : Option (Option CheckpointValue × Option CheckpointValue)) (b : β)
    (recordCount : Option ℕ) :
    dag.performs info outside source (if dag.source.countRecords then 2 else 1)
        { task := .sparkRun, xcom, window, batch := some b, recordCount
          todo := if dag.source.countRecords then [.buildWritePath, .write] else [.write] } row =
      .ok {
        run := { task := .sparkRun, todo := [], xcom, window, batch := some b, recordCount }
        emitted := [.landed b]
        row } := by
  cases dag.source.countRecords <;> rfl

omit [DecidableEq ι] in
/-- What a Spark attempt does to the sink and returns. -/
theorem Deployment.sparkTask_cases (htables : D.OfTables) {r : TaskRun ρ} {ctx : RunContext}
    (hctx : r.context = some ctx.toDict) (hpushed : ctx.Pushed (D.dag i).source)
    (input : SparkInput) (sink : Text → List ρ) :
    ∃ path, ctx.dropSinkExtra.writePath = .ok path ∧
      ((∃ e, (D.sparkTask i r input sink).result = .error e ∧
          ((D.sparkTask i r input sink).state.stored = sink ∨
            (D.sparkTask i r input sink).state.stored =
              SinkAdapter.saveInto sink .append path (r.frame.getD []))) ∨
        (D.sparkTask i r input sink).result = .ok () ∧
          input.call r.evaluatingCall = .ok () ∧
          (D.sparkTask i r input sink).state.stored =
            SinkAdapter.saveInto sink .append path (r.frame.getD [])) := by
  have hnot : ctx.sourceConfig.isPath = false := by
    rw [hpushed.source_eq]
    exact htables.not_path i
  obtain ⟨c, htable⟩ : ∃ c, ctx.dropSinkExtra.sourceConfig = .table c := by
    have hvalid := hpushed.coherent.isTableOrPath
    rw [hpushed.coherent.sink_source] at hvalid
    change ∃ c, ctx.sourceConfig = .table c
    cases hconfig : ctx.sourceConfig with
    | table c => exact ⟨c, rfl⟩
    | path c => simp [hconfig, SourceConfig.isPath] at hnot
    | kafka c => simp [hconfig, SourceConfig.isTableOrPath] at hvalid
  obtain ⟨path, hpath⟩ := RunContext.hasPath_constructSink
    (RunContext.isTableOrPath_of_fromDict hpushed.decoded)
  have hxcom : ∀ raw', (sparkWorld r input).xcom = .ok (some raw') → raw' = ctx.toDict := by
    intro raw' h
    obtain ⟨u, -, h⟩ := map_eq_ok_iff.mp h
    exact (Option.some.inj (hctx.symm.trans h)).symm
  have hwrites := SparkRunOperator.appendsOnce_execute
    (D.sparkRun i) (D.dag i).dagId (D.runId i) hpushed.decoded htable hpath hxcom
    ⟨input.hadoopConf, input.hadoopUser, sink⟩
  refine ⟨path, hpath, ?_⟩
  cases hresult : (D.sparkTask i r input sink).result with
  | error e =>
    rcases hwrites with ⟨-, hsame, -⟩ | ⟨-, hsaved⟩
    · exact .inl ⟨e, rfl, .inl hsame⟩
    · exact .inl ⟨e, rfl, .inr hsaved⟩
  | ok u =>
    refine .inr ⟨rfl, ?_, ?_⟩
    · have hcall := SparkRunOperator.evaluated_of_execute hpushed.decoded htable hxcom hresult
      have hcounts : r.counts = ctx.countRecords := by
        rw [TaskRun.counts, hctx]
        rfl
      rw [TaskRun.evaluatingCall, hcounts]
      exact hcall
    · rcases hwrites with ⟨-, -, e, he⟩ | ⟨-, hsaved⟩
      · exact absurd (hresult.symm.trans he) (by simp)
      · exact hsaved

/-- A Spark attempt fails, and the sink may have grown, or it returns, and the rows that were
evaluated are under the path. -/
theorem Deployment.endSpark_cases (htables : D.OfTables) {ctx : RunContext}
    (hctx : (C.runs i).context = some ctx.toDict) (hpushed : ctx.Pushed (D.dag i).source)
    {input : SparkInput}
    (hready : (C.runs i).frame.isSome = true ∨
      (input.call (C.runs i).evaluatingCall).isOk = false) :
    (∃ e grown, (D.sparkTask i (C.runs i) input C.sink).result = .error e ∧
        (∀ path, C.sink path <:+: grown path) ∧
        D.endSpark C i input = { C with
          sink := grown
          accepted := (sparkAccepted (D.sparkTask i (C.runs i) input C.sink).log).map
            (fun m => (i, m)) ++ C.accepted : Cluster ι σ ρ }.fail i) ∨
      ∃ path rows, ctx.dropSinkExtra.writePath = .ok path ∧ (C.runs i).frame = some rows ∧
        D.endSpark C i input = { C with
          sink := SinkAdapter.saveInto C.sink .append path rows : Cluster ι σ ρ }.setRun i {
          task := .metricPush
          context := (C.runs i).context
          recordCount := if (D.dag i).source.countRecords then some rows.length else none } := by
  obtain ⟨path, hpath, ⟨e, hresult, hstored⟩ | ⟨hresult, hcall, hstored⟩⟩ :=
    D.sparkTask_cases htables hctx hpushed input C.sink
  · refine .inl ⟨e, (D.sparkTask i (C.runs i) input C.sink).state.stored, hresult,
      fun path' => ?_, ?_⟩
    · rcases hstored with hstored | hstored
      · exact (congrFun hstored path').symm ▸ List.infix_rfl
      · exact (congrFun hstored path').symm ▸ SinkAdapter.infix_saveInto C.sink path _ path'
    · simp only [Deployment.endSpark, hresult]
  · obtain ⟨rows, hrows⟩ : ∃ rows, (C.runs i).frame = some rows := by
      refine Option.isSome_iff_exists.mp (hready.resolve_right fun hno => ?_)
      rw [hcall] at hno
      cases hno
    have hcounts : (C.runs i).counts = (D.dag i).source.countRecords := by
      rw [TaskRun.counts, hctx, ← hpushed.counts_eq]
      rfl
    -- a message would be that of a failure
    have hnone : sparkAccepted (D.sparkTask i (C.runs i) input C.sink).log = [] := by
      refine List.eq_nil_iff_forall_not_mem.mpr fun m hm => ?_
      obtain ⟨e, -, -, he, -⟩ := SparkRunOperator.carries_of_accepted hm
      exact absurd (he.symm.trans hresult) (by simp)
    rw [hrows, Option.getD_some] at hstored
    refine .inr ⟨path, rows, hpath, hrows, ?_⟩
    simp only [Deployment.endSpark, hresult, hstored, hnone, hcounts, hrows, Option.map_some]
    rfl

/-- A Spark attempt ends. -/
theorem Deployment.Follows.endSpark (h : D.Follows A C) (htables : D.OfTables)
    (hin : (C.runs i).isIn .sparkRun = true) {input : SparkInput}
    (hready : (C.runs i).frame.isSome = true ∨
      (input.call (C.runs i).evaluatingCall).isOk = false) :
    ∃ es A', exec D.system.step A es = some A' ∧ D.Follows A' (D.endSpark C i input) := by
  obtain ⟨htask, hfailed⟩ := TaskRun.isIn_iff.mp hin
  obtain ⟨ctx, hctx, hpushed⟩ := (h.runs i).context (by simp [htask])
  rcases D.endSpark_cases htables hctx hpushed hready with
    ⟨e, grown, hresult, hsink, hend⟩ | ⟨path, rows, -, hrows, hend⟩
  · rw [hend]
    refine h.fail hfailed (by simp [htask]) (PyExc.text e) true rfl rfl rfl rfl rfl hsink
      fun entry hentry => ?_
    rcases List.mem_append.mp hentry with hentry | hentry
    · obtain ⟨m, hm, rfl⟩ := List.mem_map.mp hentry
      obtain ⟨e', metricType, raw, he', htype, hraw, hcarries⟩ :=
        SparkRunOperator.carries_of_accepted hm
      obtain rfl := Except.error.inj (he'.symm.trans hresult)
      refine .inr ⟨rfl, _, ?_, .failure htype hraw hcarries⟩
      simp [System.failureMetric, htask, system, info]
    · exact .inl hentry
  · have hrun : A.runs i = {
        task := .sparkRun
        xcom := some ctx.toDict.xcom
        window := some (ctx.checkpointFrom, ctx.checkpointTo)
        batch := some rows
        recordCount := if (D.dag i).source.countRecords then some rows.length else none
        todo :=
          if (D.dag i).source.countRecords then [.buildWritePath, .write] else [.write] } := by
      rw [(h.runs i).unfailed hfailed]
      simp only [TaskRun.toRun, htask, hrows, hctx, Option.map_some, Option.bind_some,
        ctx.window_toDict]
    have hperforms := (D.dag i).performs_write (D.info i) .up A.source
      (A.store (D.dag i).dagId) (some ctx.toDict.xcom)
      (some (ctx.checkpointFrom, ctx.checkpointTo)) rows
      (if (D.dag i).source.countRecords then some rows.length else none)
    rw [← hrun] at hperforms
    rw [hend]
    refine ⟨_, _, D.system.exec_task hperforms rfl rfl (by simp), ?_⟩
    refine h.stretched rfl rfl rfl ?_ rfl ?_ (fun _ _ hr => by simp at hr) (fun path' => ?_)
      (fun b hb => ⟨path, ?_⟩) fun entry hentry => .inl hentry
    · exact h.store_eq ▸ (Function.update_eq_self _ _).symm
    · refine ⟨rfl, fun _ => ?_, fun hf => (by cases hf), fun _ => ⟨ctx, hctx, hpushed⟩⟩
      simp only [TaskRun.toRun, hctx, Option.map_some]
      rfl
    · exact SinkAdapter.infix_saveInto C.sink path rows path'
    · obtain rfl : b = rows := by simpa using hb
      exact SinkAdapter.infix_saveInto_self C.sink path b

/-! ### The metric task -/

/-- The steps up to the publication of the metric. -/
theorem Dag.performs_publish {β : Type} (dag : Dag σ β) (info : RunInfo) (outside : Outside)
    (source : σ) (row : Option Text) {xcom : Option Xcom} {recordCount : Option ℕ}
    {pulled : Pulled} (hpull : dag.metricPush.pull xcom recordCount = .ok pulled) :
    dag.performs info outside source 4
        { task := .metricPush, todo := dag.source.steps .metricPush, xcom, recordCount } row =
      .ok {
        run := { task := .metricPush, todo := [.saveCheckpoint], xcom, recordCount
                 pulled := some pulled }
        emitted := [.published (dag.metricPush.payload dag.dagId outside.now info pulled)]
        row } := by
  have hfirst : dag.performs info outside source 1
      { task := .metricPush, todo := dag.source.steps .metricPush, xcom, recordCount } row =
        .ok {
          run := { task := .metricPush, xcom, recordCount, pulled := some pulled
                   todo := [.buildMetricAdapter, .validateMetric, .publish, .saveCheckpoint] }
          emitted := []
          row } := by
    simp [Dag.performs, Source.steps, Step.effect, hpull]
  exact Dag.performs_add (n := 1) (m := 3) hfirst rfl

/-- The step that saves the checkpoint. -/
theorem Dag.performs_saveCheckpoint {β : Type} (dag : Dag σ β) (info : RunInfo)
    (outside : Outside) (source : σ) (row : Option Text) (xcom : Option Xcom)
    (recordCount : Option ℕ) {pulled : Pulled} {text : Option Text}
    (hsave : dag.metricPush.checkpointToSave pulled = .ok text) :
    dag.performs info outside source 1
        { task := .metricPush, todo := [.saveCheckpoint], xcom, recordCount
          pulled := some pulled } row =
      .ok {
        run := { task := .metricPush, todo := [], xcom, recordCount, pulled := some pulled }
        emitted := (text.map .saved).toList
        row := text.or row } := by
  simp [Dag.performs, Step.effect, hsave]

omit [DecidableEq ι] in
/-- The text that is saved is the one of the pulled checkpoint. -/
theorem MetricPush.checkpointToSave_of_saveCheckpoint {op : MetricPush} {input : MetricInput}
    {connect : Except PyExc Unit} {pulled : Pulled} {text : Option Text}
    (h : op.saveCheckpoint input connect = .ok text)
    (hpull : op.pull (input.context.map ContextDict.xcom) input.recordCount = .ok pulled) :
    op.checkpointToSave pulled = .ok text := by
  obtain ⟨pulled', hpull', h⟩ := bind_eq_ok_iff.mp h
  obtain rfl := Except.ok.inj (hpull'.symm.trans hpull)
  obtain ⟨text', htext, h⟩ := bind_eq_ok_iff.mp h
  rw [htext]
  cases text' with
  | none => exact h
  | some text' =>
    obtain ⟨_, -, h⟩ := bind_eq_ok_iff.mp h
    exact h

omit [DecidableEq ι] in
/-- What a metric attempt publishes, when it builds its adapter. -/
theorem MetricPush.exists_pulled_of_toPublish {op : MetricPush} {airflow : AirflowContext}
    {input : MetricInput} {adapter : QueueAdapter} {payload : Dict Text Value}
    (h : op.toPublish airflow input = .ok (adapter, payload)) :
    ∃ pulled, op.pull (input.context.map ContextDict.xcom) input.recordCount = .ok pulled ∧
      ∀ m ∈ acceptedMessages (op.publishMetric airflow input ()).log,
        m.Carries op.metricType op.metricConfigRaw
          (op.payload airflow.dagId airflow.stopTime airflow.info pulled) := by
  have hmessage := fun m (hm : m ∈ acceptedMessages (op.publishMetric airflow input ()).log) =>
    MetricPush.message_of_accepted h hm
  obtain ⟨pulled, hpull, h⟩ := bind_eq_ok_iff.mp h
  obtain ⟨built, hbuilt, h⟩ := bind_eq_ok_iff.mp h
  obtain ⟨_, -, h⟩ := bind_eq_ok_iff.mp h
  obtain ⟨rfl, rfl⟩ := Prod.mk.inj (Except.ok.inj h)
  exact ⟨pulled, hpull, fun m hm => ⟨built, airflow.now, ⟨_, hbuilt⟩, hmessage m hm⟩⟩

omit [DecidableEq ι] in
/-- A message of a metric attempt carries what the attempt has pulled. -/
theorem Deployment.exists_pulled_of_accepted {r : TaskRun ρ} {input : MetricTaskInput}
    {m : QueueMessage} (hm : m ∈ acceptedMessages (D.publishTask i r input).log) :
    ∃ pulled, (D.metricPush i).pull (r.context.map ContextDict.xcom) r.recordCount = .ok pulled ∧
      m.Carries (D.metricType i) (D.metricConfigRaw i)
        ((D.metricPush i).payload (D.dag i).dagId input.stopTime (D.info i) pulled) := by
  cases hpublish : (D.metricPush i).toPublish {
      dagId := (D.dag i).dagId
      info := D.info i
      stopTime := input.stopTime
      now := input.now } (metricInput r input) with
  | error e =>
    rw [Deployment.publishTask, MetricPush.publishMetric, hpublish] at hm
    cases hm
  | ok built =>
    obtain ⟨adapter, payload⟩ := built
    obtain ⟨pulled, hpull, hcarries⟩ := MetricPush.exists_pulled_of_toPublish hpublish
    exact ⟨pulled, hpull, hcarries m hm⟩

/-- A metric attempt. -/
theorem Deployment.Follows.runMetric (h : D.Follows A C)
    (hin : (C.runs i).isIn .metricPush = true) (input : MetricTaskInput) :
    ∃ es A', exec D.system.step A es = some A' ∧ D.Follows A' (D.runMetric C i input) := by
  obtain ⟨htask, hfailed⟩ := TaskRun.isIn_iff.mp hin
  have hrun : A.runs i = {
      task := .metricPush
      todo := (D.dag i).source.steps .metricPush
      xcom := (C.runs i).context.map ContextDict.xcom
      recordCount := (C.runs i).recordCount } := by
    rw [(h.runs i).unfailed hfailed, TaskRun.toRun, htask]
  cases hpublish : (D.metricPush i).toPublish {
      dagId := (D.dag i).dagId
      info := D.info i
      stopTime := input.stopTime
      now := input.now } (metricInput (C.runs i) input) with
  | error e =>
    have hout : D.publishTask i (C.runs i) input = ⟨.error e, (), [.failed e]⟩ := by
      rw [Deployment.publishTask, MetricPush.publishMetric, hpublish]
      rfl
    have hend : D.runMetric C i input = C.fail i := by
      simp only [Deployment.runMetric, hout]
      rfl
    rw [hend]
    exact h.fail hfailed (by simp [htask]) [] false rfl rfl rfl rfl rfl (fun _ => List.infix_rfl)
      fun entry hentry => .inl hentry
  | ok built =>
    obtain ⟨adapter, payload⟩ := built
    obtain ⟨pulled, hpull, -⟩ := MetricPush.exists_pulled_of_toPublish hpublish
    replace hpull : (D.dag i).metricPush.pull ((C.runs i).context.map ContextDict.xcom)
      (C.runs i).recordCount = .ok pulled := hpull
    have hperforms := (D.dag i).performs_publish (D.info i)
      { now := input.stopTime, sourceUp := true, metricUp := true } A.source
      (A.store (D.dag i).dagId) hpull
    rw [← hrun] at hperforms
    have haccepted (acts : List (Action σ (List ρ)))
        (hacts : .published ((D.dag i).metricPush.payload (D.dag i).dagId input.stopTime (D.info i)
          pulled) ∈ acts) :
        ∀ entry ∈ (acceptedMessages (D.publishTask i (C.runs i) input).log).map
          (fun m => (i, m)) ++ C.accepted, entry ∈ C.accepted ∨ entry.1 = i ∧
          ∃ payload : Payload, .published payload ∈ acts ∧ D.Sends i entry.2 payload := by
      intro entry hentry
      rcases List.mem_append.mp hentry with hentry | hentry
      · obtain ⟨m, hm, rfl⟩ := List.mem_map.mp hentry
        obtain ⟨pulled', hpull', hcarries⟩ := D.exists_pulled_of_accepted hm
        obtain rfl := Except.ok.inj (hpull'.symm.trans hpull)
        exact .inr ⟨rfl, _, hacts, .success hcarries⟩
      · exact .inl hentry
    cases hsaved : (D.publishTask i (C.runs i) input).result.bind fun _ =>
        (D.metricPush i).saveCheckpoint (metricInput (C.runs i) input) input.connect with
    | error e =>
      have hend : D.runMetric C i input = { C with
          accepted := (acceptedMessages (D.publishTask i (C.runs i) input).log).map
            (fun m => (i, m)) ++ C.accepted : Cluster ι σ ρ }.fail i := by
        simp only [Deployment.runMetric, hsaved]
      rw [hend]
      refine h.fail_after _ hperforms rfl rfl (by simp) (fun a ha => ⟨_, List.mem_singleton.mp ha⟩)
        ?_ (PyExc.text e) false rfl rfl rfl rfl rfl (fun _ => List.infix_rfl)
        (haccepted _ (List.mem_append_right _ (List.mem_singleton_self _)))
      simp [Run.restart, TaskRun.restart, TaskRun.toRun, htask]
    | ok text =>
      obtain ⟨-, -, hsave⟩ := bind_eq_ok_iff.mp hsaved
      have htext : (D.dag i).metricPush.checkpointToSave pulled = .ok text :=
        MetricPush.checkpointToSave_of_saveCheckpoint hsave hpull
      have hall := Dag.performs_add hperforms ((D.dag i).performs_saveCheckpoint (D.info i)
        { now := input.stopTime, sourceUp := true, metricUp := true } A.source
        (A.store (D.dag i).dagId) _ _ htext)
      have hend : D.runMetric C i input = { C with
          accepted := (acceptedMessages (D.publishTask i (C.runs i) input).log).map
            (fun m => (i, m)) ++ C.accepted
          store := text.elim C.store fun t => Function.update C.store (D.dag i).dagId (some t)
          runs := Function.update C.runs i { task := .done, context := (C.runs i).context
                                             recordCount := (C.runs i).recordCount } } := by
        simp only [Deployment.runMetric, hsaved]
      rw [hend]
      refine ⟨_, _, D.system.exec_task hall rfl rfl (by simp), ?_⟩
      refine h.stretched rfl rfl rfl ?_ ?_ ?_ (fun _ _ hr => ?_) (fun _ => List.infix_rfl)
        (fun b hb => ?_) (haccepted _ (by simp))
      · rw [h.store_eq]
        cases text with
        | none => exact (Function.update_eq_self _ _).symm
        | some t => rfl
      · cases text <;> rfl
      · exact ⟨rfl, fun _ => rfl, fun hf => (by cases hf), fun _ =>
          (h.runs i).context (by simp [htask])⟩
      · cases text <;> simp at hr
      · cases text <;> simp at hb

/-! ### Whole histories -/

/-- A failed task is retried. -/
theorem Deployment.Follows.retry (h : D.Follows A C) (hfailed : (C.runs i).failed = true) :
    ∃ es A', exec D.system.step A es = some A' ∧
      D.Follows A' (C.setRun i (C.runs i).restart) := by
  have hstep : D.system.step A (.retry i) =
      some (A.setRun i ((A.runs i).restart (D.dag i))) := by
    simp only [System.step]
    exact if_pos ((h.runs i).failed_eq.trans hfailed)
  refine ⟨[.retry i], _, exec_cons_eq_some.mpr ⟨_, hstep, rfl⟩, ?_⟩
  have hrestart := (h.runs i).restart hfailed
  obtain ⟨htask, hgoing⟩ := (C.runs i).restart.task_toRun (D.dag i).source
  have hunfailed : (C.runs i).restart.failed = false := by
    cases hr : (C.runs i).task with
    | init | sparkRun | metricPush => simp [TaskRun.restart, hr]
    | done =>
      -- the run of a complete attempt would have failed after its end
      have hdone : (A.runs i).task = .done := by
        rw [← (A.runs i).restart_task (D.dag i), hrestart, htask, TaskRun.restart_task, hr]
      rw [← hrestart, Run.restart, hdone, (h.runs i).failed_eq, hfailed] at hgoing
      cases hgoing
  have hfollowed : (C.runs i).restart.FollowedBy (D.dag i) ((A.runs i).restart (D.dag i)) := by
    refine ⟨by rw [hrestart, hgoing, hunfailed], fun _ => hrestart, fun hf => ?_, fun hne => ?_⟩
    · exact absurd hf (by simp [hunfailed])
    · have hkept : (C.runs i).restart.task ≠ .init →
          (C.runs i).task ≠ .init ∧ (C.runs i).restart.context = (C.runs i).context := by
        cases hr : (C.runs i).task <;> simp [TaskRun.restart, hr]
      obtain ⟨hne', hcontext⟩ := hkept hne
      obtain ⟨ctx, hctx, hpushed⟩ := (h.runs i).context hne'
      exact ⟨ctx, hcontext.trans hctx, hpushed⟩
  have hstate : A.stretched (D.dag i).dagId i {
      run := (A.runs i).restart (D.dag i)
      emitted := []
      row := A.store (D.dag i).dagId } = A.setRun i ((A.runs i).restart (D.dag i)) := by
    simp [State.stretched, State.setRun]
  rw [← hstate]
  exact h.stretched rfl rfl rfl (h.store_eq ▸ (Function.update_eq_self _ _).symm) rfl hfollowed
    (fun _ _ hr => by cases hr) (fun _ => List.infix_rfl) (fun b hb => by cases hb)
    fun entry hentry => .inl hentry

/-- The follower keeps up with every event. -/
theorem Deployment.Follows.step (h : D.Follows A C) (htables : D.OfTables)
    {e : OperatorEvent ι σ} (hdescribed : D.Described C e) {C' : Cluster ι σ ρ}
    (hstep : D.step C e = some C') :
    ∃ es A', exec D.system.step A es = some A' ∧ D.Follows A' C' := by
  cases transition_of_step hstep with
  | @changed next hmoves =>
    have hevent : D.system.step A (.source next) = some { A with source := next } := by
      simp only [System.step, h.reported_eq, h.source_eq]
      exact if_pos hmoves
    exact ⟨[.source next], _, exec_cons_eq_some.mpr ⟨_, hevent, rfl⟩,
      { h with
        source_eq := rfl
        current := List.mem_cons_self
        reads := fun j state b hmem => List.mem_cons_of_mem _ (h.reads j state b hmem) }⟩
  | retried hfailed => exact h.retry hfailed
  | fetchedFrom hin hrow hnative => exact h.fetchFrom hin hrow hnative
  | fetchedTo hin hrow hnative => exact h.fetchTo hin hrow hnative _
  | initFailed hin =>
    obtain ⟨htask, hfailed⟩ := TaskRun.isIn_iff.mp hin
    exact h.fail hfailed (by simp [htask]) [] false rfl rfl rfl rfl rfl (fun _ => List.infix_rfl)
      fun entry hentry => .inl hentry
  | pushed hin hctx hnative => exact h.push hin hctx hnative (hdescribed _ hctx)
  | evaluated hin hframe hrows => exact h.evaluate htables hin hframe hrows
  | sparkEnded hin hready => exact h.endSpark htables hin hready
  | metricEnded hin => exact h.runMetric hin _

omit [DecidableEq ι] in
/-- Both start alike. -/
theorem Deployment.follows_start (source : σ) (store : Text → Option Text) (sink : Text → List ρ) :
    D.Follows (State.start D.system source store) (Cluster.start source store sink) where
  source_eq := rfl
  store_eq := rfl
  current := List.mem_singleton_self source
  reported_eq := rfl
  runs i := ⟨rfl, fun _ => rfl, fun hf => (by cases hf), fun hne => absurd rfl hne⟩
  reads i state b hmem := by cases hmem
  sink i b hb := by cases hb
  accepted i m hm := by cases hm

/-- The follower keeps up with a whole history. -/
theorem Deployment.Follows.exists_follower (h : D.Follows A C) (htables : D.OfTables)
    {es : List (OperatorEvent ι σ)} (hdescribed : Along D.step D.Described C es)
    {C' : Cluster ι σ ρ} (hexec : exec D.step C es = some C') :
    ∃ fs A', exec D.system.step A fs = some A' ∧ D.Follows A' C' :=
  exec_refinement_along (fun hrel hcond hstep => hrel.step htables hcond hstep) h hdescribed hexec

end Follow

end BatchIngestion
