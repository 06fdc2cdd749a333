import BatchIngestion.Retries

/-!
# What the metric task publishes

`MetricPushOperator.execute` takes the message apart from the destination: the adapter that it
builds carries credentials, while the payload has a few entries of the run context. Two executions
that differ in credentials and connection details hand the same content to the primary queue.
-/

namespace BatchIngestion

open Python Library MetricAction Procedure

/-! ### The execution -/

/-- The parameters of a `MetricPushOperator`, with those of its queue. -/
structure MetricPush extends MetricPushOperator where
  /-- `metric_type`. -/
  metricType : MetricAdapterType
  /-- `metric_config_raw`. -/
  metricConfigRaw : MetricConfigRaw

/-- The Airflow context of an execution and its clock. -/
structure AirflowContext where
  /-- `context["dag"].dag_id`. -/
  dagId : Text
  /-- `run_id` and the start date. -/
  info : RunInfo
  /-- `stop_time`. -/
  stopTime : Text
  /-- `published_at`. -/
  now : Text

/-- What else an execution depends on: the XCom entries of the run, and the queue with its
secret. -/
structure MetricInput where
  /-- The run context. -/
  context : Option ContextDict
  /-- `record_count` of the Spark task. -/
  recordCount : Option ℕ
  /-- The secret and the queue. -/
  world : MetricWorld

namespace MetricPush

/-- What `publish` of the primary queue is called with: the adapter and the payload. -/
def toPublish (op : MetricPush) (airflow : AirflowContext) (input : MetricInput) :
    Except PyExc (QueueAdapter × Dict Text Value) := do
  let pulled ← op.pull (input.context.map ContextDict.xcom) input.recordCount
  let payload := op.payload airflow.dagId airflow.stopTime airflow.info pulled
  let adapter ← buildMetricAdapter op.metricType op.metricConfigRaw input.world.getSecret
  let _ ← input.world.validate
  return (adapter, payload.map fun (k, v) => (k, v.toValue))

/-- `execute`, up to the end of `publish` on the primary queue. -/
def publishMetric (op : MetricPush) (airflow : AirflowContext) (input : MetricInput) :
    MetricAction Unit := do
  let (adapter, payload) ← step (op.toPublish airflow input)
  adapter.publish { input.world.backend with now := airflow.now } payload

end MetricPush

/-! ### The content of a message -/

/-- What a message says, without its destination. -/
inductive QueueContent
  /-- The body and the attributes of an SQS message. -/
  | sqs (body : Text) (attributes : Dict Text Text)
  /-- The fields of a stream entry. -/
  | redis (fields : Dict Text Text)
  /-- The value and the key of a Kafka record. -/
  | kafka (value : Text) (key : Option Text)
  deriving DecidableEq

/-- The content of a message. -/
def QueueMessage.content : QueueMessage → QueueContent
  | .sqs _ body attributes => .sqs body attributes
  | .redis _ fields _ => .redis fields
  | .kafka _ value key => .kafka value key

/-- Two configurations are of one class, with one key. -/
def MetricConfig.Alike : MetricConfig → MetricConfig → Prop
  | .sqs _, .sqs _ => True
  | .redis _, .redis _ => True
  | .kafka a, .kafka b => a.key = b.key
  | _, _ => False

/-- Adapters that are alike build messages of one content, or fail alike. -/
theorem QueueAdapter.content_message {a b : QueueAdapter} (hconfig : a.config.Alike b.config)
    (hattributes : a.messageAttributes = b.messageAttributes) (now : Text)
    (payload : Dict Text Value) :
    (a.message now payload).map QueueMessage.content =
      (b.message now payload).map QueueMessage.content := by
  obtain ⟨config, attributes⟩ := a
  obtain ⟨config', attributes'⟩ := b
  obtain rfl : attributes = attributes' := hattributes
  cases config <;> cases config' <;> try exact hconfig.elim
  case sqs.sqs =>
    simp only [message, SQSQueueAdapter.buildMessage]
    cases Value.dumps false (.dict payload) <;> rfl
  case redis.redis =>
    simp only [message]
    cases RedisQueueAdapter.buildMessage attributes now payload <;> rfl
  case kafka.kafka config config' =>
    have hkey : config.key = config'.key := hconfig
    simp only [message, hkey]
    cases KafkaQueueAdapter.buildMessage attributes now payload <;> rfl

/-- A configuration is of the class of a metric type, with a given key. -/
def MetricConfig.OfType (key : Option Text) : MetricAdapterType → MetricConfig → Prop
  | .cloudQueue, .sqs _ => True
  | .onpremQueue, .redis _ => True
  | .kafkaQueue, .kafka config => config.key = key
  | _, _ => False

/-- The class, the key and the attributes of an adapter come from the operator, whatever the
secret is. -/
theorem ofType_of_buildMetricAdapter {metricType : MetricAdapterType} {raw : MetricConfigRaw}
    {getSecret : Text → Except PyExc QueueSecret} {adapter : QueueAdapter}
    (h : buildMetricAdapter metricType raw getSecret = .ok adapter) :
    adapter.config.OfType raw.key metricType ∧
      adapter.messageAttributes = raw.messageAttributes := by
  unfold buildMetricAdapter at h
  dsimp only at h
  split at h
  all_goals
    obtain ⟨credentials, -, h⟩ := bind_eq_ok_iff.mp h
    cases metricType
    all_goals
      obtain ⟨config, hconfig, h⟩ := bind_eq_ok_iff.mp h
      obtain rfl := Except.ok.inj h
    case cloudQueue =>
      obtain rfl := Except.ok.inj hconfig
      exact ⟨trivial, rfl⟩
    case onpremQueue =>
      obtain ⟨port, -, rfl⟩ := map_eq_ok_iff.mp hconfig
      exact ⟨trivial, rfl⟩
    case kafkaQueue =>
      obtain rfl := Except.ok.inj hconfig
      exact ⟨rfl, rfl⟩

/-- Configurations of one type with one key are alike. -/
theorem MetricConfig.OfType.alike {key : Option Text} {metricType : MetricAdapterType}
    {a b : MetricConfig} (ha : a.OfType key metricType) (hb : b.OfType key metricType) :
    a.Alike b := by
  cases metricType <;> cases a <;> try exact ha.elim
  all_goals cases b <;> try exact hb.elim
  case cloudQueue.sqs.sqs => exact trivial
  case onpremQueue.redis.redis => exact trivial
  case kafkaQueue.kafka.kafka => exact ha.trans hb.symm

/-! ### What is handed over -/

/-- The messages that a queue accepted. -/
def acceptedMessages (log : List MetricEvent) : List QueueMessage :=
  log.filterMap fun event => match event with
    | .accepted m => some m
    | _ => none

/-- A client that answers accepts the message that is built, if any. -/
theorem acceptedMessages_publishSync {message : Except PyExc QueueMessage} {backend : Backend}
    {m : QueueMessage} (h : m ∈ acceptedMessages (publishSync message backend ()).log) :
    message = .ok m := by
  obtain ⟨now, create, send, flush⟩ := backend
  cases message with
  | error e => cases h
  | ok m' =>
    cases create with
    | error e => cases h
    | ok _ =>
      cases send with
      | error e => cases h
      | ok _ =>
        obtain rfl := List.mem_singleton.mp h
        rfl

/-- **What a queue accepts is the message of its adapter.** -/
theorem QueueAdapter.message_of_accepted {adapter : QueueAdapter} {backend : Backend}
    {payload : Dict Text Value} {m : QueueMessage}
    (h : m ∈ acceptedMessages (adapter.publish backend payload ()).log) :
    adapter.message backend.now payload = .ok m := by
  cases hconfig : adapter.config with
  | sqs config =>
    rw [publish, hconfig] at h
    rw [message, hconfig]
    exact acceptedMessages_publishSync h
  | redis config =>
    rw [publish, hconfig] at h
    obtain ⟨fields, hfields, rfl⟩ := map_eq_ok_iff.mp (acceptedMessages_publishSync h)
    rw [message, hconfig]
    dsimp only
    rw [hfields]
    rfl
  | kafka config =>
    obtain ⟨now, create, send, flush⟩ := backend
    rw [publish, hconfig] at h
    rw [message, hconfig]
    unfold KafkaQueueAdapter.publish at h
    dsimp only at h ⊢
    generalize KafkaQueueAdapter.buildMessage adapter.messageAttributes now payload = value at h ⊢
    cases create with
    | error e => cases h
    | ok _ =>
      cases value with
      | error e => cases h
      | ok value =>
        cases send with
        | error e => cases h
        | ok _ =>
          cases flush with
          | delivered =>
            obtain rfl := List.mem_singleton.mp h
            rfl
          | undelivered e => cases h
          | raised e => cases h

/-- Two executions agree on what the payload is made of. -/
structure MetricInput.Agree (a b : MetricInput) : Prop where
  /-- The checkpoints, the read type and the date. -/
  xcom : a.context.map ContextDict.xcom = b.context.map ContextDict.xcom
  /-- The record count. -/
  recordCount : a.recordCount = b.recordCount

namespace MetricPush

variable {op : MetricPush} {airflow : AirflowContext} {a b : MetricInput}
  {adapter adapter' : QueueAdapter} {payload payload' : Dict Text Value}

/-- Executions that agree call `publish` with one payload, and with adapters that are alike. -/
theorem toPublish_agree (hagree : a.Agree b) (ha : op.toPublish airflow a = .ok (adapter, payload))
    (hb : op.toPublish airflow b = .ok (adapter', payload')) :
    payload = payload' ∧ adapter.config.Alike adapter'.config ∧
      adapter.messageAttributes = adapter'.messageAttributes := by
  obtain ⟨pulled, hpulled, ha⟩ := bind_eq_ok_iff.mp ha
  obtain ⟨pulled', hpulled', hb⟩ := bind_eq_ok_iff.mp hb
  obtain ⟨built, hbuilt, ha⟩ := bind_eq_ok_iff.mp ha
  obtain ⟨built', hbuilt', hb⟩ := bind_eq_ok_iff.mp hb
  obtain ⟨_, -, ha⟩ := bind_eq_ok_iff.mp ha
  obtain ⟨_, -, hb⟩ := bind_eq_ok_iff.mp hb
  obtain ⟨rfl, rfl⟩ := Prod.mk.inj (Except.ok.inj ha)
  obtain ⟨rfl, rfl⟩ := Prod.mk.inj (Except.ok.inj hb)
  rw [hagree.xcom, hagree.recordCount, hpulled'] at hpulled
  obtain rfl := Except.ok.inj hpulled
  obtain ⟨hconfig, hattributes⟩ := ofType_of_buildMetricAdapter hbuilt
  obtain ⟨hconfig', hattributes'⟩ := ofType_of_buildMetricAdapter hbuilt'
  exact ⟨rfl, hconfig.alike hconfig', hattributes.trans hattributes'.symm⟩

/-- What is accepted is the message for the payload. -/
theorem message_of_accepted (h : op.toPublish airflow a = .ok (adapter, payload))
    {m : QueueMessage} (hm : m ∈ acceptedMessages (op.publishMetric airflow a ()).log) :
    adapter.message airflow.now payload = .ok m := by
  have hrun : op.publishMetric airflow a () =
      adapter.publish { a.world.backend with now := airflow.now } payload () := by
    rw [publishMetric, h]
    rfl
  rw [hrun] at hm
  exact QueueAdapter.message_of_accepted hm

end MetricPush

/-- **Secrets do not flow into success metrics.** Two executions that agree on the entries of the
payload and both reach `publish` build messages of one content, or fail to build one alike. All
messages that the two queues accept have this content. -/
theorem publishMetric_content_eq (op : MetricPush) (airflow : AirflowContext) {a b : MetricInput}
    (hagree : a.Agree b) {adapter adapter' : QueueAdapter} {payload payload' : Dict Text Value}
    (ha : op.toPublish airflow a = .ok (adapter, payload))
    (hb : op.toPublish airflow b = .ok (adapter', payload')) :
    (adapter.message airflow.now payload).map QueueMessage.content =
        (adapter'.message airflow.now payload').map QueueMessage.content ∧
      ∀ m ∈ acceptedMessages (op.publishMetric airflow a ()).log,
        ∀ m' ∈ acceptedMessages (op.publishMetric airflow b ()).log, m.content = m'.content := by
  obtain ⟨rfl, hconfig, hattributes⟩ := MetricPush.toPublish_agree hagree ha hb
  have hcontent := QueueAdapter.content_message hconfig hattributes airflow.now payload
  constructor
  · exact hcontent
  intro m hm m' hm'
  rw [MetricPush.message_of_accepted ha hm, MetricPush.message_of_accepted hb hm'] at hcontent
  exact Except.ok.inj hcontent

/-- The metric task of a DAG with a Kafka queue. -/
def customersMetric : MetricPush where
  toMetricPushOperator := DagFactory.metricPush "customers"
  metricType := .kafkaQueue
  metricConfigRaw := { credentialRef := "kafka", topic := some "pipeline-metrics".toList }

/-- A manual run of the DAG. -/
def customersAirflow : AirflowContext where
  dagId := "customers"
  info :=
    { runId := "manual", startTime := "2024-01-01T00:00:00+00:00", ingestionDate := "2024-01-01" }
  stopTime := "2024-01-01T00:05:00+00:00"
  now := "2024-01-01T00:05:01+00:00"

/-- The run with a password of the sink and a broker of the queue. -/
def customersInput (password broker : Text) : MetricInput where
  context := some {
    customersContext.toDict with
    sinkCredentials := { other := [("password".toList, .str password)] } }
  recordCount := some 1
  world := {
    getSecret := fun _ => .ok { bootstrapServers := some broker }
    validate := .ok true
    backend := { lossyCluster with flush := .delivered } }

/-- The run reaches `publish`. -/
theorem exists_toPublish_customers (password broker : Text) : ∃ adapter payload,
    customersMetric.toPublish customersAirflow (customersInput password broker) =
      .ok (adapter, payload) :=
  ⟨_, _, rfl⟩

/-- The runs agree. -/
theorem agree_customersInput (password password' broker broker' : Text) :
    (customersInput password broker).Agree (customersInput password' broker') := ⟨rfl, rfl⟩

/-- Each run has one message accepted, in which neither the password nor the broker can be seen. -/
theorem publishMetric_content_customers :
    ∃ m m', acceptedMessages (customersMetric.publishMetric customersAirflow
        (customersInput "alpha" "broker-a:9092") ()).log = [m] ∧
      acceptedMessages (customersMetric.publishMetric customersAirflow
        (customersInput "beta" "broker-b:9092") ()).log = [m'] ∧ m.content = m'.content := by
  obtain ⟨adapter, payload, ha⟩ := exists_toPublish_customers "alpha" "broker-a:9092"
  obtain ⟨adapter', payload', hb⟩ := exists_toPublish_customers "beta" "broker-b:9092"
  obtain ⟨-, hcontent⟩ := publishMetric_content_eq customersMetric customersAirflow
    (agree_customersInput "alpha" "beta" "broker-a:9092" "broker-b:9092") ha hb
  have hone : (acceptedMessages (customersMetric.publishMetric customersAirflow
      (customersInput "alpha" "broker-a:9092") ()).log).length = 1 := by decide +kernel
  have hone' : (acceptedMessages (customersMetric.publishMetric customersAirflow
      (customersInput "beta" "broker-b:9092") ()).log).length = 1 := by decide +kernel
  obtain ⟨m, hm⟩ := List.length_eq_one_iff.mp hone
  obtain ⟨m', hm'⟩ := List.length_eq_one_iff.mp hone'
  rw [hm, hm'] at hcontent
  exact ⟨m, m', hm, hm', hcontent m List.mem_cons_self m' List.mem_cons_self⟩

end BatchIngestion
