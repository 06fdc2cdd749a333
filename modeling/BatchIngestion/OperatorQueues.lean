import BatchIngestion.MessageFormat
import BatchIngestion.Metrics
import BatchIngestion.OperatorLanding

/-!
# What the queues are told

The messages that the queues have accepted come from the adapters of the runs and tell the truth
about the sink, and no checkpoint is stored before a queue has been told.
-/

namespace BatchIngestion

open Python Library

variable {ι σ ρ : Type} {D : Deployment ι σ ρ} {source : σ} {store : Text → Option Text}
  {sink : Text → List ρ} {es : List (OperatorEvent ι σ)} {C C' : Cluster ι σ ρ}

/-! ### The truth of the metrics -/

/-- What a run has told a queue: that its Spark task has failed, or, when this task is behind it,
what its metric task has pulled from its own run context. -/
inductive Deployment.Tells (D : Deployment ι σ ρ) (C : Cluster ι σ ρ) (i : ι) (m : QueueMessage) :
    Prop
  /-- The Spark task has failed. -/
  | failure {metricType : MetricAdapterType} {raw : MetricConfigRaw} {error : Text}
    (htype : (D.sparkRun i).metricType = some metricType)
    (hraw : (D.sparkRun i).metricConfigRaw = some raw)
    (hcarries : m.Carries metricType raw (failurePayload (D.dag i).dagId (D.runId i) error))
  /-- The metric task has published. -/
  | success {stopTime : Text} {pulled : Pulled}
    (htask : (C.runs i).task = .metricPush ∨ (C.runs i).task = .done)
    (hpulled : (D.metricPush i).pull ((C.runs i).context.map ContextDict.xcom)
      (C.runs i).recordCount = .ok pulled)
    (hcarries : m.Carries (D.metricType i) (D.metricConfigRaw i)
      ((D.metricPush i).payload (D.dag i).dagId stopTime (D.info i) pulled))

/-- What a run has told stays what it tells while it keeps what it has pulled from. -/
theorem Deployment.Tells.mono {i : ι} {m : QueueMessage} (h : D.Tells C i m)
    (hrun : (C.runs i).task = .metricPush ∨ (C.runs i).task = .done →
      ((C'.runs i).task = .metricPush ∨ (C'.runs i).task = .done) ∧
        (C.runs i).Keeps (C'.runs i)) : D.Tells C' i m := by
  cases h with
  | failure htype hraw hcarries => exact .failure htype hraw hcarries
  | success htask hpulled hcarries =>
    obtain ⟨htask', hkeeps⟩ := hrun htask
    refine .success htask' ?_ hcarries
    rw [hkeeps.context, hkeeps.recordCount]
    exact hpulled

/-- Every message that a queue has accepted is one that its run has told. -/
def Deployment.Told (D : Deployment ι σ ρ) (C : Cluster ι σ ρ) : Prop :=
  ∀ entry ∈ C.accepted, D.Tells C entry.1 entry.2

section Step

variable [DecidableEq ι] {i : ι}

/-- What one run does leaves what has been told. -/
theorem Deployment.Told.update (h : D.Told C) {r : TaskRun ρ}
    (hruns : C'.runs = Function.update C.runs i r)
    (hrun : (C.runs i).task = .metricPush ∨ (C.runs i).task = .done →
      (r.task = .metricPush ∨ r.task = .done) ∧ (C.runs i).Keeps r)
    (haccepted : ∀ entry ∈ C'.accepted, entry ∈ C.accepted ∨ entry.1 = i ∧ D.Tells C' i entry.2) :
    D.Told C' := by
  intro entry hentry
  rcases haccepted entry hentry with hold | ⟨rfl, hnew⟩
  · refine (h entry hold).mono fun htask => ?_
    rw [hruns]
    by_cases hi : entry.1 = i
    · subst hi
      rw [Function.update_self]
      exact hrun htask
    · rw [Function.update_of_ne hi]
      exact ⟨htask, rfl, rfl⟩
  · exact hnew

omit [DecidableEq ι] in
/-- A run that is in another task is not past its Spark task. -/
theorem TaskRun.not_later {r : TaskRun ρ} {task : Task} (hin : r.isIn task = true)
    (htask : task = .init ∨ task = .sparkRun) :
    ¬(r.task = .metricPush ∨ r.task = .done) := by
  rw [(TaskRun.isIn_iff.mp hin).1]
  rcases htask with rfl | rfl <;> simp

/-- A Spark attempt tells its failure. -/
theorem Deployment.Told.endSpark (h : D.Told C) (hin : (C.runs i).isIn .sparkRun = true)
    (input : SparkInput) : D.Told (D.endSpark C i input) := by
  obtain ⟨r, hruns, -⟩ := D.exists_endSpark_runs C i input
  refine h.update hruns (fun hlater => absurd hlater (TaskRun.not_later hin (.inr rfl)))
    fun entry hentry => ?_
  rw [endSpark_accepted] at hentry
  rcases List.mem_append.mp hentry with hnew | hold
  · obtain ⟨m, hm, rfl⟩ := List.mem_map.mp hnew
    obtain ⟨e, metricType, raw, -, htype, hraw, hcarries⟩ :=
      SparkRunOperator.carries_of_accepted hm
    exact .inr ⟨rfl, .failure htype hraw hcarries⟩
  · exact .inl hold

/-- A metric attempt tells what it has pulled. -/
theorem Deployment.Told.runMetric (h : D.Told C) (hin : (C.runs i).isIn .metricPush = true)
    (input : MetricTaskInput) : D.Told (D.runMetric C i input) := by
  obtain ⟨htask, hfailed⟩ := TaskRun.isIn_iff.mp hin
  obtain ⟨r, hruns, hkeeps, hlater⟩ : ∃ r,
      (D.runMetric C i input).runs = Function.update C.runs i r ∧ (C.runs i).Keeps r ∧
        (r.task = .metricPush ∨ r.task = .done) := by
    unfold Deployment.runMetric
    dsimp only
    split
    · exact ⟨_, rfl, ⟨rfl, rfl⟩, .inr rfl⟩
    · exact ⟨_, rfl, ⟨rfl, rfl⟩, .inl htask⟩
  refine h.update hruns (fun _ => ⟨hlater, hkeeps⟩) fun entry hentry => ?_
  rw [runMetric_accepted] at hentry
  rcases List.mem_append.mp hentry with hnew | hold
  · obtain ⟨m, hm, rfl⟩ := List.mem_map.mp hnew
    obtain ⟨pulled, hpull, hcarries⟩ := D.exists_pulled_of_accepted hm
    refine .inr ⟨rfl, .success ?_ ?_ hcarries⟩ <;> rw [hruns, Function.update_self]
    · exact hlater
    · rw [hkeeps.context, hkeeps.recordCount]
      exact hpull
  · exact .inl hold

/-- Every event leaves the queues with what the runs tell. -/
theorem Deployment.Told.step (h : D.Told C) {e : OperatorEvent ι σ} (hstep : D.step C e = some C') :
    D.Told C' := by
  have hinit {i : ι} (hin : (C.runs i).isIn .init = true) (r : TaskRun ρ) :
      (C.runs i).task = .metricPush ∨ (C.runs i).task = .done →
        (r.task = .metricPush ∨ r.task = .done) ∧ (C.runs i).Keeps r :=
    fun hlater => absurd hlater (TaskRun.not_later hin (.inl rfl))
  cases transition_of_step hstep with
  | changed => exact fun entry hentry => (h entry hentry).mono fun htask => ⟨htask, rfl, rfl⟩
  | @retried i hfailed =>
    refine h.update rfl (fun hlater => ?_) fun _ => .inl
    rw [TaskRun.restart_task]
    refine ⟨hlater, ?_⟩
    rcases hlater with htask | htask <;> rw [TaskRun.restart, htask] <;> exact ⟨rfl, rfl⟩
  | fetchedFrom hin => exact h.update rfl (hinit hin _) fun _ => .inl
  | fetchedTo hin => exact h.update rfl (hinit hin _) fun _ => .inl
  | initFailed hin => exact h.update rfl (hinit hin _) fun _ => .inl
  | pushed hin => exact h.update rfl (hinit hin _) fun _ => .inl
  | evaluated hin =>
    have hnot := TaskRun.not_later hin (.inr rfl)
    exact h.update rfl (fun hlater => absurd hlater hnot) fun _ => .inl
  | sparkEnded hin => exact h.endSpark hin _
  | metricEnded hin => exact h.runMetric hin _

/-- A success metric of a run tells the truth: it has the identifiers of the run, the texts of its
two checkpoints and the number of the rows that it has landed. -/
structure Payload.TellsTruth (payload : Payload) (D : Deployment ι σ ρ) (C : Cluster ι σ ρ)
    (i : ι) : Prop where
  /-- The status. -/
  status : payload.IsSuccess
  /-- The identifiers of the DAG and the run. -/
  ids : Dict.get? payload ("dag_id" : Text) = some (.str (D.dag i).dagId) ∧
    Dict.get? payload ("run_id" : Text) = some (.str (D.runId i))
  /-- The checkpoints and the record count are those of what the run has landed. -/
  landed : ∃ ctx path state rows textFrom textTo, C.Lands (D.dag i).source i ctx path state rows ∧
    checkpointText (serialiseCheckpoint ctx.checkpointFrom) = .ok textFrom ∧
    checkpointText (serialiseCheckpoint ctx.checkpointTo) = .ok textTo ∧
    Dict.get? payload ("checkpoint_from" : Text) = some (.ofText textFrom) ∧
    Dict.get? payload ("checkpoint_to" : Text) = some (.ofText textTo) ∧
    Dict.get? payload ("record_count" : Text) =
      if (D.dag i).source.countRecords then some (.int (rows.length : ℤ)) else none

omit [DecidableEq ι] in
/-- What a metric task pulls from the context of a run that has landed its rows is the truth. -/
theorem Deployment.Traces.tellsTruth (h : D.Traces C i) {dagId : Text}
    {pipeline : Source σ (List ρ)} (hdag : D.dag i = DagFactory.makeDag dagId pipeline)
    (htask : (C.runs i).task = .metricPush ∨ (C.runs i).task = .done) {pulled : Pulled}
    (hpulled : (D.metricPush i).pull ((C.runs i).context.map ContextDict.xcom)
      (C.runs i).recordCount = .ok pulled) (stopTime : Text) :
    Payload.TellsTruth ((D.metricPush i).payload (D.dag i).dagId stopTime (D.info i) pulled) D C
      i := by
  have hmetric : (D.metricPush i).toMetricPushOperator = DagFactory.metricPush dagId := by
    rw [Deployment.metricPush, hdag]
    rfl
  obtain ⟨ctx, hctx, hpushed, -⟩ := h.context (by rcases htask with h | h <;> simp [h])
  obtain ⟨ctx', path, state, rows, hlands⟩ := h.landed htask
  obtain ⟨raw, hraw, hdecoded⟩ := hlands.context
  obtain rfl := Option.some.inj (hctx.symm.trans hraw)
  obtain rfl := Except.ok.inj (hpushed.decoded.symm.trans hdecoded)
  rw [hmetric, hctx] at hpulled
  obtain ⟨textFrom, hfrom, hpulled⟩ := bind_eq_ok_iff.mp hpulled
  obtain ⟨textTo, hto, hpulled⟩ := bind_eq_ok_iff.mp hpulled
  obtain rfl := Except.ok.inj hpulled
  rw [hmetric]
  refine ⟨DagFactory.isSuccess_payload, DagFactory.get?_ids, ctx.dropSinkExtra, path, state, rows,
    textFrom, textTo, hlands, hfrom, hto, DagFactory.get?_checkpointFrom,
    DagFactory.get?_checkpointTo, DagFactory.get?_recordCount.trans ?_⟩
  change (C.runs i).recordCount.map _ = _
  rw [hlands.recordCount]
  cases (D.dag i).source.countRecords <;> rfl

/-- **The queues get the truth.** Runs of any number of DAGs of the DAG factory that read tables
interleave, fail at any call and are retried. Whatever message a queue has accepted from a run, it
was built by the adapter of one of the operators of this run, and a consumer finds the entries of
the payload in it: of a failure of the Spark task, or of a success that names the run, the two
checkpoints of its own window and the number of the rows that it has landed in this window. -/
theorem operators_metrics {dagId : ι → Text} {pipeline : ι → Source σ (List ρ)}
    (hdags : ∀ i, D.dag i = DagFactory.makeDag (dagId i) (pipeline i)) (htables : D.OfTables)
    (hdescribed : Along D.step D.Described (Cluster.start source store sink) es)
    (h : exec D.step (Cluster.start source store sink) es = some C) {m : QueueMessage}
    (hm : (i, m) ∈ C.accepted) :
    ∃ (adapter : QueueAdapter) (now : Text) (payload : Payload),
      ((∃ metricType raw error, (D.sparkRun i).metricType = some metricType ∧
          (D.sparkRun i).metricConfigRaw = some raw ∧ adapter.BuiltFrom metricType raw ∧
          payload = failurePayload (D.dag i).dagId (D.runId i) error) ∨
        adapter.BuiltFrom (D.metricType i) (D.metricConfigRaw i) ∧ payload.TellsTruth D C i) ∧
      ∀ float, adapter.ReadableAttributes float → ∀ key,
        Option.Rel (adapter.config.Delivers float)
          (Dict.get? (adapter.envelope now (payload.map fun (k, v) => (k, v.toValue))) key)
          (m.entry float key) := by
  have htold : D.Told C :=
    exec_invariant (fun hinv hstep => Deployment.Told.step hinv hstep)
      (fun entry hentry => (by cases hentry)) h
  cases htold (i, m) hm with
  | @failure metricType raw error htype hraw hcarries =>
    obtain ⟨adapter, now, hbuilt, hmessage⟩ := hcarries
    exact ⟨adapter, now, _, .inl ⟨metricType, raw, error, htype, hraw, hbuilt, rfl⟩,
      fun float hreadable key => QueueAdapter.entry_of_message
        (readable_toValue (nodup_keys_failurePayload ..)) hreadable hmessage key⟩
  | @success stopTime pulled htask hpulled hcarries =>
    obtain ⟨adapter, now, hbuilt, hmessage⟩ := hcarries
    have htraces := D.traces_of_exec htables hdescribed h i
    exact ⟨adapter, now, _,
      .inr ⟨hbuilt, htraces.tellsTruth (hdags i) htask hpulled stopTime⟩,
      fun float hreadable key => QueueAdapter.entry_of_message
        (readable_toValue (MetricPushOperator.nodup_keys_payload ..)) hreadable hmessage key⟩

/-! ### The table of checkpoints -/

/-- A queue to which a message is sent does not lose it. -/
def Deployment.Delivers (D : Deployment ι σ ρ) : OperatorEvent ι σ → Prop
  | .metricPush i input =>
    D.metricType i = .kafkaQueue → ∀ e, input.world.backend.flush ≠ .undelivered e
  | _ => True

omit [DecidableEq ι] in
/-- A call of `publish` that keeps its contract and returns has handed a message over. -/
theorem HonoursContract.exists_accepted {message : Except PyExc QueueMessage}
    {out : Outcome PyExc Unit MetricEvent Unit} (h : HonoursContract message out)
    (hok : out.result = .ok ()) : ∃ m, m ∈ acceptedMessages out.log := by
  unfold HonoursContract at h
  split at h
  · obtain ⟨-, -, m, -, hm⟩ := h
    exact ⟨m, List.mem_filterMap.mpr ⟨_, hm, rfl⟩⟩
  · exact absurd (h.1.symm.trans hok) (by simp)

omit [DecidableEq ι] in
/-- A call of `publish` that returns has handed a message over, if Kafka loses none. -/
theorem QueueAdapter.exists_accepted {adapter : QueueAdapter} {backend : Backend}
    {payload : Dict Text Value} (hkafka : adapter.IsKafka → ∀ e, backend.flush ≠ .undelivered e)
    (h : (adapter.publish backend payload ()).result = .ok ()) :
    ∃ m, m ∈ acceptedMessages (adapter.publish backend payload ()).log := by
  cases hconfig : adapter.config with
  | sqs config =>
    rw [publish, hconfig] at h ⊢
    exact (publishSync_honoursContract _ _).exists_accepted h
  | redis config =>
    rw [publish, hconfig] at h ⊢
    exact (publishSync_honoursContract _ _).exists_accepted h
  | kafka config =>
    have hcreate : backend.create = .ok () := by
      rw [publish, hconfig] at h
      cases hcreate : backend.create with
      | error e =>
        dsimp only at h
        rw [KafkaQueueAdapter.publish, hcreate] at h
        cases h
      | ok _ => rfl
    have hhonours := (KafkaQueueAdapter.honoursContract_iff adapter hconfig backend payload).mpr
      ⟨hcreate, fun m e _ _ => hkafka ⟨config, hconfig⟩ e⟩
    exact hhonours.exists_accepted h

omit [DecidableEq ι] in
/-- A metric task builds an adapter of its type. -/
theorem MetricPush.isKafka_of_toPublish {op : MetricPush} {airflow : AirflowContext}
    {input : MetricInput} {adapter : QueueAdapter} {payload : Dict Text Value}
    (h : op.toPublish airflow input = .ok (adapter, payload)) (hkafka : adapter.IsKafka) :
    op.metricType = .kafkaQueue := by
  obtain ⟨pulled, -, h⟩ := bind_eq_ok_iff.mp h
  obtain ⟨built, hbuilt, h⟩ := bind_eq_ok_iff.mp h
  obtain ⟨_, -, h⟩ := bind_eq_ok_iff.mp h
  obtain ⟨rfl, -⟩ := Prod.mk.inj (Except.ok.inj h)
  obtain ⟨config, hconfig⟩ := hkafka
  have htype := (ofType_of_buildMetricAdapter hbuilt).1
  rw [hconfig] at htype
  cases hmetric : op.metricType with
  | kafkaQueue => rfl
  | cloudQueue | onpremQueue =>
    rw [hmetric] at htype
    exact htype.elim

omit [DecidableEq ι] in
/-- A text arrives as it is, whatever the queue is. -/
theorem MetricConfig.Delivers.eq_str {float : Text → Option Text} {config : MetricConfig}
    {text : Text} {received : Value} (h : config.Delivers float (.str text) received) :
    received = .str text := by
  cases config with
  | sqs config => exact h
  | redis config =>
    obtain ⟨told, rfl, htold⟩ := h
    exact congrArg Value.str htold
  | kafka config => exact h

omit [DecidableEq ι] in
/-- A text that no attribute hides arrives under its key. -/
theorem QueueMessage.Carries.entry_eq {m : QueueMessage} {metricType : MetricAdapterType}
    {raw : MetricConfigRaw} {payload : Payload} (h : m.Carries metricType raw payload)
    (hnodup : (Dict.keys payload).Nodup) {key text : Text}
    (hkey : key ∉ Dict.keys raw.messageAttributes) (hstamp : key ≠ ("published_at" : Text))
    {float : Text → Option Text}
    (hreadable : ∀ item ∈ raw.messageAttributes, item.2.value.Readable float)
    (hget : Dict.get? payload key = some (.str text)) : m.entry float key = some (.str text) := by
  obtain ⟨adapter, now, ⟨_, hbuilt⟩, hmessage⟩ := h
  have hattributes := (ofType_of_buildMetricAdapter hbuilt).2
  have hvalue : Dict.get? (payload.map fun (k, v) => (k, v.toValue)) key = some (.str text) :=
    (Dict.get?_map PayloadValue.toValue payload key).trans (by rw [hget]; rfl)
  have hmerged (attributes : Dict Text Value)
      (hkeys : Dict.keys attributes = Dict.keys adapter.messageAttributes) :
      Dict.get? (Dict.set (Dict.update (payload.map fun (k, v) => (k, v.toValue)) attributes)
        ("published_at" : Text) (.str now)) key = some (.str text) := by
    rw [Dict.get?_set, if_neg (Ne.symm hstamp),
      Dict.get?_update_of_notMem (by rw [hkeys, hattributes]; exact hkey), hvalue]
  have henvelope : Dict.get? (adapter.envelope now (payload.map fun (k, v) => (k, v.toValue))) key =
      some (.str text) := by
    unfold QueueAdapter.envelope
    cases adapter.config with
    | sqs config => exact hvalue
    | redis config =>
      exact hmerged _ (by simp [attributeTexts, Dict.keys, Function.comp_def])
    | kafka config =>
      exact hmerged _ (by simp [attributeValues, Dict.keys, Function.comp_def])
  have hentry := QueueAdapter.entry_of_message (readable_toValue hnodup)
    (readableAttributes_of_buildMetricAdapter hbuilt hreadable) hmessage key
  rw [henvelope] at hentry
  generalize m.entry float key = received at hentry
  cases hentry with
  | some hdelivers => rw [hdelivers.eq_str]

omit [DecidableEq ι] in
/-- What a metric task that saves a checkpoint has announced. -/
theorem Deployment.announced_of_runMetric {i : ι} {dagId : Text} {source : Source σ (List ρ)}
    (hdag : D.dag i = DagFactory.makeDag dagId source) {r : TaskRun ρ} {input : MetricTaskInput}
    (hdelivers : D.Delivers (.metricPush i input)) {text : Text}
    (h : ((D.publishTask i r input).result.bind fun _ =>
      (D.metricPush i).saveCheckpoint (metricInput r input) input.connect) = .ok (some text)) :
    ∃ m ∈ acceptedMessages (D.publishTask i r input).log, ∃ payload : Payload,
      D.Sends i m payload ∧ payload.IsSuccess ∧
      Dict.get? payload ("checkpoint_to" : Text) = some (.str text) := by
  cases hpublish : (D.metricPush i).toPublish {
      dagId := (D.dag i).dagId
      info := D.info i
      stopTime := input.stopTime
      now := input.now } (metricInput r input) with
  | error e =>
    rw [Deployment.publishTask, MetricPush.publishMetric, hpublish] at h
    cases h
  | ok built =>
    obtain ⟨adapter, payload⟩ := built
    obtain ⟨pulled, hpull, hcarries⟩ := MetricPush.exists_pulled_of_toPublish hpublish
    have hout : D.publishTask i r input =
        adapter.publish { input.world.backend with now := input.now } payload () := by
      rw [Deployment.publishTask, MetricPush.publishMetric, hpublish]
      rfl
    obtain ⟨_, hresult, hsave⟩ := bind_eq_ok_iff.mp h
    have hsaved := MetricPush.checkpointToSave_of_saveCheckpoint hsave hpull
    have hto := MetricPushOperator.checkpointTo_of_checkpointToSave hsaved
    obtain ⟨m, hm⟩ : ∃ m, m ∈ acceptedMessages (D.publishTask i r input).log := by
      rw [hout] at hresult ⊢
      exact QueueAdapter.exists_accepted
        (fun hkafka => hdelivers (MetricPush.isKafka_of_toPublish hpublish hkafka)) hresult
    have hmetric : (D.metricPush i).toMetricPushOperator = DagFactory.metricPush dagId := by
      rw [Deployment.metricPush, hdag]
      rfl
    refine ⟨m, hm, _, .success (hcarries m hm), ?_, ?_⟩
    · rw [hmetric]
      exact DagFactory.isSuccess_payload
    · rw [hmetric, DagFactory.get?_checkpointTo, hto]
      rfl

/-- Every stored checkpoint is an initial one or has been announced. -/
def Deployment.Announced (D : Deployment ι σ ρ) (store : Text → Option Text) (C : Cluster ι σ ρ) :
    Prop :=
  ∀ d text, C.store d = some text → store d = some text ∨ ∃ i m, ∃ payload : Payload,
    (D.dag i).dagId = d ∧ (i, m) ∈ C.accepted ∧ D.Sends i m payload ∧ payload.IsSuccess ∧
    Dict.get? payload ("checkpoint_to" : Text) = some (.str text)

omit [DecidableEq ι] in
/-- What has been announced stays announced while the table of checkpoints is the same. -/
theorem Deployment.Announced.mono (h : D.Announced store C)
    (hstore : C'.store = C.store) (haccepted : C.accepted ⊆ C'.accepted) :
    D.Announced store C' := by
  intro d text htext
  rw [hstore] at htext
  refine (h d text htext).imp_right ?_
  rintro ⟨i, m, payload, hi, hm, hpayload⟩
  exact ⟨i, m, payload, hi, haccepted hm, hpayload⟩

/-- A metric attempt announces what it stores. -/
theorem Deployment.Announced.runMetric (h : D.Announced store C) {i : ι} {dagId : Text}
    {pipeline : Source σ (List ρ)} (hdag : D.dag i = DagFactory.makeDag dagId pipeline)
    {input : MetricTaskInput} (hdelivers : D.Delivers (.metricPush i input)) :
    D.Announced store (D.runMetric C i input) := by
  unfold Deployment.runMetric
  dsimp only
  split
  · rename_i text hsaved
    cases text with
    | none => exact h.mono rfl (List.subset_append_right _ _)
    | some saved =>
      intro d text htext
      by_cases hd : d = (D.dag i).dagId
      · subst hd
        obtain rfl : saved = text := by simpa using htext
        obtain ⟨m, hm, payload, hpayload⟩ := announced_of_runMetric hdag hdelivers hsaved
        exact .inr ⟨i, m, payload, rfl, List.mem_append_left _ (List.mem_map.mpr ⟨m, hm, rfl⟩),
          hpayload⟩
      · have hold : C.store d = some text := by simpa [Function.update_of_ne hd] using htext
        refine (h d text hold).imp_right ?_
        rintro ⟨j, m, payload, hj, hm, hpayload⟩
        exact ⟨j, m, payload, hj, List.mem_append_right _ hm, hpayload⟩
  · exact h.mono rfl (List.subset_append_right _ _)

/-- Every event announces what it stores. -/
theorem Deployment.Announced.step (h : D.Announced store C) {dagId : ι → Text}
    {pipeline : ι → Source σ (List ρ)}
    (hdags : ∀ i, D.dag i = DagFactory.makeDag (dagId i) (pipeline i)) {e : OperatorEvent ι σ}
    (hdelivers : D.Delivers e) {C' : Cluster ι σ ρ} (hstep : D.step C e = some C') :
    D.Announced store C' := by
  cases transition_of_step hstep with
  | sparkEnded => exact h.mono (by simp) (by simp)
  | metricEnded => exact h.runMetric (hdags _) hdelivers
  | changed | retried | fetchedFrom | fetchedTo | initFailed | pushed | evaluated => exact h

omit [DecidableEq ι] in
/-- What a success metric is sent for. -/
theorem Deployment.Sends.of_isSuccess {m : QueueMessage} {payload : Payload}
    (h : D.Sends i m payload) (hsuccess : payload.IsSuccess) :
    m.Carries (D.metricType i) (D.metricConfigRaw i) payload ∧ (Dict.keys payload).Nodup := by
  cases h with
  | failure => exact absurd hsuccess not_isSuccess_failurePayload
  | success hcarries => exact ⟨hcarries, MetricPushOperator.nodup_keys_payload ..⟩

/-- **Every stored checkpoint has been announced.** Runs of any number of DAGs of the DAG factory
interleave, fail at any call and are retried. If no Kafka broker loses what it is sent, then in
every reachable state every checkpoint that was not there in the beginning is the `checkpoint_to`
of a success metric of its DAG that the adapter of the metric task has handed over and a queue has
accepted. A consumer reads it in the message, unless an attribute of the metric task hides it. -/
theorem checkpoints_announced {dagId : ι → Text} {pipeline : ι → Source σ (List ρ)}
    (hdags : ∀ i, D.dag i = DagFactory.makeDag (dagId i) (pipeline i))
    (hdelivers : Along D.step (fun _ => D.Delivers) (Cluster.start source store sink) es)
    (h : exec D.step (Cluster.start source store sink) es = some C) {d text : Text}
    (htext : C.store d = some text) :
    store d = some text ∨ ∃ i m, ∃ payload : Payload, dagId i = d ∧ (i, m) ∈ C.accepted ∧
      m.Carries (D.metricType i) (D.metricConfigRaw i) payload ∧ payload.IsSuccess ∧
      Dict.get? payload ("checkpoint_to" : Text) = some (.str text) ∧
      (("checkpoint_to" : Text) ∉ Dict.keys (D.metricConfigRaw i).messageAttributes → ∀ float,
        (∀ item ∈ (D.metricConfigRaw i).messageAttributes, item.2.value.Readable float) →
          m.entry float "checkpoint_to" = some (.str text)) := by
  have hannounced : D.Announced store C :=
    exec_invariant_along (fun hinv hcond hstep => hinv.step hdags hcond hstep)
      (fun _ _ h => .inl h) hdelivers h
  refine (hannounced d text htext).imp_right ?_
  rintro ⟨i, m, payload, hi, hm, hsends, hsuccess, hto⟩
  obtain ⟨hcarries, hnodup⟩ := hsends.of_isSuccess hsuccess
  refine ⟨i, m, payload, ?_, hm, hcarries, hsuccess, hto, fun hkey float hreadable =>
    hcarries.entry_eq hnodup hkey (by decide +kernel) hreadable hto⟩
  rw [hdags i] at hi
  exact hi

/-- The stored checkpoint 12 has been announced. -/
theorem checkpoints_announced_shop : ∃ C,
    exec shopDeployment.step shopStart shopHistory = some C ∧
    ∃ i m, (i, m) ∈ C.accepted ∧ m.entry (fun _ => none) "checkpoint_to" = some (.str "12") := by
  obtain ⟨C, hC, hstore, -⟩ := exec_shop
  have hdelivers : Along shopDeployment.step (fun _ => shopDeployment.Delivers) shopStart
      shopHistory := by
    refine along_of_mem ?_
    have hmetric (i : ℕ) : shopDeployment.Delivers (.metricPush i shopMetric) :=
      fun _ _ hflush => by cases hflush
    simp only [shopHistory, List.forall_mem_cons]
    exact ⟨trivial, trivial, trivial, trivial, trivial, trivial, trivial, trivial, trivial,
      hmetric 1, trivial, trivial, trivial, trivial, trivial, hmetric 2,
      fun _ h => absurd h List.not_mem_nil⟩
  rcases checkpoints_announced (fun _ => rfl) hdelivers hC hstore with
    hinitial | ⟨i, m, payload, -, hm, -, -, -, hentry⟩
  · cases hinitial
  · exact ⟨C, hC, i, m, hm, hentry List.not_mem_nil _ fun item hitem => by cases hitem⟩

end Step

end BatchIngestion
