import BatchIngestion.Isolation
import BatchIngestion.OperatorRefinement

/-!
# What the operators guarantee

The code of the operators refines the pipelines, so that the properties of the pipelines are
properties of what is under the paths of the sink after any history of a deployment.
-/

namespace BatchIngestion

open Python Library

variable {ι σ ρ : Type}

/-! ### The refinement -/

/-- Dags of the DAG factory make up a system of the DAG factory. -/
theorem Deployment.system_eq {D : Deployment ι σ ρ} {dagId : ι → Text}
    {source : ι → Source σ (List ρ)}
    (hdags : ∀ i, D.dag i = DagFactory.makeDag (dagId i) (source i)) :
    D.system = DagFactory.dags dagId source D.info D.moves := by
  have hdag : D.dag = fun i => DagFactory.makeDag (dagId i) (source i) := funext hdags
  rw [Deployment.system, hdag]
  rfl

/-- A run is in the task of its attempt. -/
theorem TaskRun.FollowedBy.task_eq {r : TaskRun ρ} {dag : Dag σ (List ρ)} {run : Run (List ρ)}
    (h : r.FollowedBy dag run) : run.task = r.task := by
  cases hfailed : r.failed with
  | false =>
    rw [h.unfailed hfailed]
    exact (r.task_toRun _).1
  | true =>
    rw [← run.restart_task dag, h.restart hfailed, (r.restart.task_toRun _).1, r.restart_task]

/-! ### Which attempts describe the source -/

/-- What a run context says about the source comes from the pipeline file and the secrets. -/
theorem InitOperator.source_of_execute {env : Env} {cfg : PipelineConfig} {ctx : RunContext}
    (h : execute env cfg = .ok ctx) {readType : ReadAdapterType} {kwargs : SourceSection}
    {created config : SourceConfig} {secret : Secret}
    (hread : cfg.readType = some readType.value) (hkwargs : cfg.source = some kwargs)
    (hcreate : SourceConfigFactory.create readType kwargs = .ok created)
    (hsecret : env.getSecret created.credentialRef = .ok secret)
    (hinject : SourceConfigFactory.injectConnection created secret.toConnectionDict = .ok config) :
    ctx.readType = readType ∧ ctx.sourceConfig = config ∧
      ctx.countRecords = cfg.countRecords.getD false := by
  unfold execute at h
  obtain ⟨readType', hread', h⟩ := bind_eq_ok_iff.mp h
  obtain ⟨writeType, -, h⟩ := bind_eq_ok_iff.mp h
  obtain ⟨metricType, -, h⟩ := bind_eq_ok_iff.mp h
  obtain ⟨kwargs', hkwargs', h⟩ := bind_eq_ok_iff.mp h
  obtain ⟨sink, -, h⟩ := bind_eq_ok_iff.mp h
  obtain ⟨⟨created', sinkConfig⟩, hconfigs, h⟩ := bind_eq_ok_iff.mp h
  obtain ⟨secret', hsecret', h⟩ := bind_eq_ok_iff.mp h
  obtain ⟨config', hinject', h⟩ := bind_eq_ok_iff.mp h
  obtain ⟨sinkCredentials, -, h⟩ := bind_eq_ok_iff.mp h
  obtain ⟨metricCredentials, -, h⟩ := bind_eq_ok_iff.mp h
  obtain ⟨row, -, h⟩ := bind_eq_ok_iff.mp h
  obtain ⟨checkpointFrom, -, h⟩ := bind_eq_ok_iff.mp h
  obtain rfl := Except.ok.inj h
  rw [hread] at hread'
  rw [hkwargs] at hkwargs'
  obtain rfl : kwargs = kwargs' := Except.ok.inj hkwargs'
  obtain rfl : readType = readType' :=
    Except.ok.inj ((ReadAdapterType.ofValue_value readType).symm.trans hread')
  obtain ⟨_, hcreate', hconfigs⟩ := bind_eq_ok_iff.mp hconfigs
  obtain ⟨_, -, hconfigs⟩ := bind_eq_ok_iff.mp hconfigs
  obtain ⟨_, -, hconfigs⟩ := bind_eq_ok_iff.mp hconfigs
  obtain ⟨_, -, hconfigs⟩ := bind_eq_ok_iff.mp hconfigs
  obtain ⟨rfl, -⟩ := Prod.mk.inj (Except.ok.inj hconfigs)
  obtain rfl := Except.ok.inj (hcreate.symm.trans hcreate')
  obtain rfl := Except.ok.inj (hsecret.symm.trans hsecret')
  exact ⟨rfl, Except.ok.inj (hinject'.symm.trans hinject), rfl⟩

/-- An attempt describes the source of its DAG if its pipeline file and its secrets do. -/
theorem Deployment.described_init {D : Deployment ι σ ρ} {C : Cluster ι σ ρ} {i : ι}
    {input : InitInput} {cfg : PipelineConfig} {kwargs : SourceSection} {created : SourceConfig}
    {secret : Secret} (hload : input.load = .ok cfg)
    (hread : cfg.readType = some (D.dag i).source.readType.value)
    (hkwargs : cfg.source = some kwargs)
    (hcreate : SourceConfigFactory.create (D.dag i).source.readType kwargs = .ok created)
    (hsecret : input.getSecret created.credentialRef = .ok secret)
    (hinject : SourceConfigFactory.injectConnection created secret.toConnectionDict =
      .ok (D.dag i).source.config)
    (hcounts : cfg.countRecords.getD false = (D.dag i).source.countRecords) :
    D.Described C (.init i input) := by
  intro ctx hctx
  rw [Deployment.initTask, hload] at hctx
  obtain ⟨htype, hconfig, hcount⟩ :=
    InitOperator.source_of_execute hctx hread hkwargs hcreate hsecret hinject
  exact ⟨htype, hconfig, hcount.trans hcounts⟩

section Deployment

variable [DecidableEq ι] {D : Deployment ι σ ρ} {source : σ} {store : Text → Option Text}
  {sink : Text → List ρ} {es : List (OperatorEvent ι σ)} {C : Cluster ι σ ρ}

/-- **The operators refine the pipelines.** -/
theorem operators_refine (htables : D.OfTables)
    (hdescribed : Along D.step D.Described (Cluster.start source store sink) es)
    (h : exec D.step (Cluster.start source store sink) es = some C) :
    ∃ fs A, exec D.system.step (State.start D.system source store) fs = some A ∧
      A.source = C.source ∧ A.store = C.store ∧ reportedIn A.log = C.reported ∧
      (∀ i, (A.runs i).task = (C.runs i).task ∧ (A.runs i).failed = (C.runs i).failed) ∧
      (∀ i state b, (i, .read state b) ∈ A.log → state ∈ C.sources) ∧
      (∀ i b, Landed A.log i b → ∃ path, b <:+: C.sink path) ∧
      ∀ i m, (i, m) ∈ C.accepted →
        ∃ payload : Payload, (i, .published payload) ∈ A.log ∧ D.Sends i m payload := by
  obtain ⟨fs, A, hexec, hfollows⟩ :=
    (D.follows_start source store sink).exists_follower htables hdescribed h
  exact ⟨fs, A, hexec, hfollows.source_eq, hfollows.store_eq, hfollows.reported_eq,
    fun i => ⟨(hfollows.runs i).task_eq, (hfollows.runs i).failed_eq⟩, hfollows.reads,
    hfollows.sink, hfollows.accepted⟩

/-- The table `orders`, as the factories describe it. -/
def shopOrders : TableSourceConfig :=
  { ordersById with schema := "default" }

/-- The `source` section for it. -/
def shopSection : SourceSection :=
  { ordersTable with checkpointColumn := some "id".toList }

/-- Runs of an incremental DAG that counts its records. -/
def shopDeployment : Deployment ℕ (Table .integer) Row where
  dag _ := DagFactory.makeDag "orders" (sqlSource .sql shopOrders true
    fun _ _ => .error (.external "no custom query"))
  sparkRun _ := customersSparkRun
  metricType _ := .kafkaQueue
  metricConfigRaw _ := customersMetric.metricConfigRaw
  runId _ := "manual"
  startTime _ := "2024-01-01T00:00:00+00:00"
  dataIntervalStart _ := newYear
  moves := Table.inserts

/-- An init attempt that reads its pipeline file and the address of the database. -/
def shopInit : InitInput where
  load := .ok { ordersConfig "sql" shopSection [] with countRecords := some true }
  getSecret _ := .ok { host := some "db".toList, port := some (.int 5432) }
  unread := .external "OperationalError"

/-- A Spark attempt with given answers of the environment. -/
def shopSpark (call : SparkCall → Except PyExc Unit) : SparkInput where
  pull := .ok ()
  call
  fields := []
  copied := true
  metric := (customersInput "alpha" "broker-a:9092").world
  hadoopConf := []
  hadoopUser := none

/-- A metric attempt with a cluster that delivers. -/
def shopMetric : MetricTaskInput where
  stopTime := "2024-01-01T00:05:00+00:00"
  now := "2024-01-01T00:05:01+00:00"
  world := (customersInput "alpha" "broker-a:9092").world
  connect := .ok ()

/-- A run that lands the order 7, is interrupted after the save, and lands it again with the new
order 12; and a run that lands the order 12. -/
def shopHistory : List (OperatorEvent ℕ (Table .integer)) := [
  .fetchFrom 1, .fetchTo 1 true, .init 1 shopInit, .evaluate 1,
  .sparkRun 1 (shopSpark fun call =>
    if call = .unpersist then .error (.external "Py4JError") else .ok ()),
  .source (Table.ofInts [7, 12]), .retry 1, .evaluate 1, .sparkRun 1 (shopSpark fun _ => .ok ()),
  .metricPush 1 shopMetric, .fetchFrom 2, .fetchTo 2 true, .init 2 shopInit, .evaluate 2,
  .sparkRun 2 (shopSpark fun _ => .ok ()), .metricPush 2 shopMetric]

/-- The state before the runs. -/
def shopStart : Cluster ℕ (Table .integer) Row :=
  Cluster.start (Table.ofInts [7]) (fun _ => none) fun _ => []

/-- The DAGs read a table. -/
theorem ofTables_shop : shopDeployment.OfTables := ⟨fun _ => rfl, fun _ _ => rfl⟩

/-- Every attempt describes it. -/
theorem described_shop :
    Along shopDeployment.step shopDeployment.Described shopStart shopHistory := by
  have hinit (i : ℕ) : ∀ C, shopDeployment.Described C (.init i shopInit) := fun _ =>
    Deployment.described_init rfl rfl rfl rfl rfl rfl rfl
  have hall : Along shopDeployment.step (fun _ e => ∀ C, shopDeployment.Described C e) shopStart
      shopHistory := by
    refine along_of_mem ?_
    simp only [shopHistory, List.forall_mem_cons]
    exact ⟨fun _ => trivial, fun _ => trivial, hinit 1, fun _ => trivial, fun _ => trivial,
      fun _ => trivial, fun _ => trivial, fun _ => trivial, fun _ => trivial, fun _ => trivial,
      fun _ => trivial, fun _ => trivial, hinit 2, fun _ => trivial, fun _ => trivial,
      fun _ => trivial, fun _ h => absurd h List.not_mem_nil⟩
  exact hall.mono fun C e h => h C

/-- Both runs complete, and two messages are accepted. -/
theorem exec_shop : ∃ C, exec shopDeployment.step shopStart shopHistory = some C ∧
    C.store "orders".toList = some "12".toList ∧ C.source.rows = (Table.ofInts [7, 12]).rows ∧
    C.accepted.map Prod.fst = [2, 1] := by
  have hfacts : ((exec shopDeployment.step shopStart shopHistory).bind fun C =>
      if C.store "orders".toList = some "12".toList ∧ C.source.rows = (Table.ofInts [7, 12]).rows ∧
        C.accepted.map Prod.fst = [2, 1] then some () else none) = some () := by
    decide +kernel
  obtain ⟨C, hC, hfacts⟩ := Option.bind_eq_some_iff.mp hfacts
  split at hfacts
  · rename_i h
    exact ⟨C, hC, h⟩
  · cases hfacts

/-- The pipelines go through the steps of both runs. -/
theorem operators_refine_shop : ∃ C fs A,
    exec shopDeployment.step shopStart shopHistory = some C ∧
    exec shopDeployment.system.step
      (State.start shopDeployment.system (Table.ofInts [7]) fun _ => none) fs = some A ∧
    A.store "orders".toList = some "12".toList := by
  obtain ⟨C, hC, hstore, -⟩ := exec_shop
  obtain ⟨fs, A, hA, -, hsame, -⟩ := operators_refine ofTables_shop described_shop hC
  exact ⟨C, fs, A, hC, hA, hsame ▸ hstore⟩

/-! ### The sink -/

/-- **The operators skip no row.** Runs of any number of DAGs of the DAG factory over one table
interleave, fail at any call and are retried; rows are inserted above every value that was computed
as `checkpoint_to`, and may disappear. If a DAG reads the table incrementally and had no row in the
table of checkpoints in the beginning, then in every reachable state every present row up to its
stored checkpoint is under a path of the sink. -/
theorem operators_complete {kind : ColumnKind} {D : Deployment ι (Table kind) Row}
    (dagId : ι → Text) (source : Text → Source (Table kind) (List Row)) {table : Table kind}
    {store : Text → Option Text} {sink : Text → List Row}
    {es : List (OperatorEvent ι (Table kind))} {C : Cluster ι (Table kind) Row}
    (hdags : ∀ i, D.dag i = DagFactory.makeDag (dagId i) (source (dagId i)))
    (hmoves : D.moves = Table.inserts) (htables : D.OfTables) {d : Text}
    {readType : ReadAdapterType} {cfg : TableSourceConfig} {countRecords : Bool}
    {custom : Text → List Row → Except PyExc (List Row)}
    (hsource : source d = sqlSource readType cfg countRecords custom)
    (hread : readType = .sql ∨ readType = .mysql) (hcfg : cfg.Incremental)
    (hkind : kind ≠ .aware) (hstore : store d = none)
    (hdescribed : Along D.step D.Described (Cluster.start table store sink) es)
    (h : exec D.step (Cluster.start table store sink) es = some C) {text : Text}
    (htext : C.store d = some text) :
    ∃ w : ColumnValue, kind.holds w = true ∧ parseText text = w.checkpoint ∧
      ∀ row ∈ C.source.rows, row.rank ≤ w.rank → ∃ path, row ∈ C.sink path := by
  obtain ⟨fs, A, hexec, hfollows⟩ :=
    (D.follows_start table store sink).exists_follower htables hdescribed h
  rw [Deployment.system_eq hdags, hmoves] at hexec
  have hcomplete : A.Complete d := by
    refine State.complete_of_dags ?_ (fun κ _ table log i => ?_) hstore hexec
    · rw [hsource]
      exact reportsMaximum_sqlSource hcfg hread
    · rw [hsource]
      exact readsWindow_sqlSource hcfg hkind table log i
  obtain ⟨w, hheld, hparse, hlanded⟩ := hcomplete text (hfollows.store_eq ▸ htext)
  refine ⟨w, hheld, hparse, fun row hrow hle => ?_⟩
  obtain ⟨i, b, hb, hmem⟩ := hlanded row (hfollows.source_eq ▸ hrow) hle
  obtain ⟨path, hpath⟩ := hfollows.sink i b hb
  exact ⟨path, hpath.subset hmem⟩

/-- Both orders are in the sink. -/
theorem operators_complete_shop : ∃ C, exec shopDeployment.step shopStart shopHistory = some C ∧
    ∀ row ∈ (Table.ofInts [7, 12]).rows, ∃ path, row ∈ C.sink path := by
  obtain ⟨C, hC, hstore, hrows, -⟩ := exec_shop
  have hcfg : shopOrders.Incremental := { incremental_ordersById with }
  obtain ⟨w, -, hparse, hsink⟩ := operators_complete (fun _ => "orders".toList)
    (fun _ => (shopDeployment.dag 0).source) (fun _ => rfl) rfl ofTables_shop rfl (.inl rfl) hcfg
    (by decide) rfl described_shop hC hstore
  have hvalue : parseText "12".toList = (ColumnValue.int 12).checkpoint := by decide +kernel
  have hw : w.rank = 12 := by
    rw [hvalue] at hparse
    cases w with
    | int n =>
      obtain rfl : 12 = n := CheckpointValue.int.inj hparse
      rfl
    | _ => cases hparse
  rw [hrows] at hsink
  refine ⟨C, hC, fun row hrow => hsink row hrow ?_⟩
  rw [hw]
  revert row
  decide

end Deployment

end BatchIngestion
