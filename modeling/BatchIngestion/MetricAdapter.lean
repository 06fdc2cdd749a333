import BatchIngestion.Config
import BatchIngestion.Library.Handlers
import BatchIngestion.Python.Value

/-!
# The metric adapters

`SQSQueueAdapter`, `RedisQueueAdapter` and `KafkaQueueAdapter` publish a payload each in its
own way. Their `publish` methods should agree on what a caller can rely on: a failure is
handed to `on_error` once and raised, and a normal return means that the queue has accepted
the message.
-/

namespace BatchIngestion

open Python Library

/-! ### Configurations -/

/-- `SQSMetricConfig`. -/
structure SQSMetricConfig where
  /-- `queue_url`. -/
  queueUrl : Text
  /-- `aws_region`. -/
  awsRegion : Text

/-- `RedisMetricConfig`. -/
structure RedisMetricConfig where
  /-- `host`. -/
  host : Text
  /-- `port`. -/
  port : ℤ
  /-- `stream_name`. -/
  streamName : Text
  /-- `max_len`; `none` is unbounded. -/
  maxLen : Option ℤ

/-- `KafkaMetricConfig`. -/
structure KafkaMetricConfig where
  /-- `bootstrap_servers`. -/
  bootstrapServers : Text
  /-- `topic`. -/
  topic : Text
  /-- `key`. -/
  key : Option Text

/-- The configuration of a metric adapter, which decides its class. -/
inductive MetricConfig
  /-- For a `SQSQueueAdapter`. -/
  | sqs (config : SQSMetricConfig)
  /-- For a `RedisQueueAdapter`. -/
  | redis (config : RedisMetricConfig)
  /-- For a `KafkaQueueAdapter`. -/
  | kafka (config : KafkaMetricConfig)

/-- A value of `message_attributes`, of which both `str` and `json.dumps` give a text. -/
structure MessageAttribute where
  /-- The value. -/
  value : Value
  /-- `str(value)`. -/
  text : Text
  /-- It is the text that `str` gives in a payload; that of a list or a dictionary is left open. -/
  text_eq : value.isContainer = false → value.dumpsOrStr = .ok text
  /-- `json.dumps(value, default=str)` returns. -/
  writable : ∃ t, value.dumps true = .ok t

/-- `{k: str(v) for k, v in attributes.items()}`. -/
def attributeTexts (attributes : Dict Text MessageAttribute) : Dict Text Text :=
  attributes.map fun item => (item.1, item.2.text)

/-- The attributes as they are. -/
def attributeValues (attributes : Dict Text MessageAttribute) : Dict Text Value :=
  attributes.map fun item => (item.1, item.2.value)

/-- A metric adapter. -/
structure QueueAdapter where
  /-- `config`. -/
  config : MetricConfig
  /-- `message_attributes`. -/
  messageAttributes : Dict Text MessageAttribute

/-- What is handed to a queue. -/
inductive QueueMessage
  /-- The arguments of `send_message`: the body, and the attributes of type `String`. -/
  | sqs (queueUrl body : Text) (attributes : Dict Text Text)
  /-- The arguments of `xadd`; a `maxlen` is approximate. -/
  | redis (name : Text) (fields : Dict Text Text) (maxlen : Option ℤ)
  /-- The arguments of `send`. -/
  | kafka (topic value : Text) (key : Option Text)
  deriving DecidableEq

/-- `SQSQueueAdapter.build_message` at a time. -/
def SQSQueueAdapter.buildMessage (config : SQSMetricConfig)
    (messageAttributes : Dict Text MessageAttribute) (now : Text) (payload : Dict Text Value) :
    Except PyExc QueueMessage := do
  let body ← Value.dumps false (.dict payload)
  return .sqs config.queueUrl body (Dict.set (attributeTexts messageAttributes) "published_at" now)

/-- `RedisQueueAdapter.build_message` at a time. -/
def RedisQueueAdapter.buildMessage (messageAttributes : Dict Text MessageAttribute) (now : Text)
    (payload : Dict Text Value) : Except PyExc (Dict Text Text) := do
  let message ← payload.mapM fun (k, v) => do return (k, ← Value.dumpsOrStr v)
  return Dict.set (Dict.update message (attributeTexts messageAttributes)) "published_at" now

/-- `KafkaQueueAdapter.build_message` at a time. -/
def KafkaQueueAdapter.buildMessage (messageAttributes : Dict Text MessageAttribute) (now : Text)
    (payload : Dict Text Value) : Except PyExc Text :=
  let envelope := Dict.update payload (attributeValues messageAttributes)
  Value.dumps true (.dict (Dict.set envelope "published_at" (.str now)))

/-- What an adapter hands to its queue for a payload. -/
def QueueAdapter.message (adapter : QueueAdapter) (now : Text) (payload : Dict Text Value) :
    Except PyExc QueueMessage :=
  match adapter.config with
  | .sqs config => SQSQueueAdapter.buildMessage config adapter.messageAttributes now payload
  | .redis config => do
    let fields ← RedisQueueAdapter.buildMessage adapter.messageAttributes now payload
    return .redis config.streamName fields config.maxLen
  | .kafka config => do
    let value ← KafkaQueueAdapter.buildMessage adapter.messageAttributes now payload
    return .kafka config.topic value (config.key.filter (· ≠ []))

/-! ### Publishing -/

/-- What becomes of a Kafka message during `flush`, which does not raise when a delivery
fails. -/
inductive Flush
  /-- The message was delivered. -/
  | delivered
  /-- The delivery failed. -/
  | undelivered (error : PyExc)
  /-- `flush` raised. -/
  | raised (error : PyExc)
  deriving DecidableEq

/-- How a queue behaves during one call of `publish`. -/
structure Backend where
  /-- `datetime.now(tz=timezone.utc).isoformat()`. -/
  now : Text
  /-- Create the client or the producer. -/
  create : Except PyExc Unit
  /-- `send_message`, `xadd` or `send`. -/
  send : Except PyExc Unit
  /-- `producer.flush()`. -/
  flush : Flush

/-- What can be seen of a call of `publish`. -/
inductive MetricEvent
  /-- A step failed. -/
  | failed (error : PyExc)
  /-- `on_error` was called. -/
  | onError (error : PyExc)
  /-- The queue accepted a message. -/
  | accepted (message : QueueMessage)
  /-- `producer.close()`. -/
  | closed
  deriving DecidableEq

/-- A procedure of a metric adapter, which keeps no state of its own. -/
abbrev MetricAction (α : Type) := Procedure PyExc Unit MetricEvent α

/-- A step that may fail. -/
def MetricAction.step {α : Type} (x : Except PyExc α) : MetricAction α :=
  Procedure.attempt .failed x

/-- `flush` after a message was sent. -/
def Flush.run (message : QueueMessage) : Flush → MetricAction Unit
  | .delivered => Procedure.emit (.accepted message)
  | .undelivered e => Procedure.emit (.failed e)
  | .raised e => MetricAction.step (.error e)

section Publish

open MetricAction Procedure

/-- Publish through a client that answers: all steps are in the `try`. -/
def publishSync (message : Except PyExc QueueMessage) (backend : Backend) : MetricAction Unit :=
  onException (do
      let message ← step message
      step backend.create
      step backend.send
      emit (.accepted message))
    fun e => emit (.onError e)

/-- `SQSQueueAdapter.publish`. -/
def SQSQueueAdapter.publish (config : SQSMetricConfig)
    (messageAttributes : Dict Text MessageAttribute) (backend : Backend)
    (payload : Dict Text Value) : MetricAction Unit :=
  publishSync (buildMessage config messageAttributes backend.now payload) backend

/-- `RedisQueueAdapter.publish`. -/
def RedisQueueAdapter.publish (config : RedisMetricConfig)
    (messageAttributes : Dict Text MessageAttribute) (backend : Backend)
    (payload : Dict Text Value) : MetricAction Unit :=
  publishSync ((buildMessage messageAttributes backend.now payload).map
    fun fields => .redis config.streamName fields config.maxLen) backend

/-- `KafkaQueueAdapter.publish`: the producer is created before the `try`, and `send` returns
a future that nobody asks for its result. -/
def KafkaQueueAdapter.publish (config : KafkaMetricConfig)
    (messageAttributes : Dict Text MessageAttribute) (backend : Backend)
    (payload : Dict Text Value) : MetricAction Unit := do
  step backend.create
  ensuring
    (onException (do
        let value ← step (buildMessage messageAttributes backend.now payload)
        let key := config.key.filter (· ≠ [])
        step backend.send
        backend.flush.run (.kafka config.topic value key))
      fun e => emit (.onError e))
    (emit .closed)

/-- `publish`. -/
def QueueAdapter.publish (adapter : QueueAdapter) (backend : Backend) (payload : Dict Text Value) :
    MetricAction Unit :=
  match adapter.config with
  | .sqs config => SQSQueueAdapter.publish config adapter.messageAttributes backend payload
  | .redis config => RedisQueueAdapter.publish config adapter.messageAttributes backend payload
  | .kafka config => KafkaQueueAdapter.publish config adapter.messageAttributes backend payload

end Publish

/-! ### The contract -/

/-- The failures in a log. -/
def failures (log : List MetricEvent) : List PyExc :=
  log.filterMap fun event => match event with
    | .failed e => some e
    | _ => none

/-- The exceptions that `on_error` was called with. -/
def reportedErrors (log : List MetricEvent) : List PyExc :=
  log.filterMap fun event => match event with
    | .onError e => some e
    | _ => none

/-- What a call of `publish` owes to its caller. A failure is handed to `on_error` exactly once
and raised; without one, the queue has accepted the message and nothing is reported. -/
def HonoursContract (message : Except PyExc QueueMessage)
    (out : Outcome PyExc Unit MetricEvent Unit) : Prop :=
  match failures out.log with
  | [] => out.result = .ok () ∧ reportedErrors out.log = [] ∧
      ∃ m, message = .ok m ∧ .accepted m ∈ out.log
  | e :: _ => out.result = .error e ∧ reportedErrors out.log = [e]

/-- A client that answers honours the contract. -/
theorem publishSync_honoursContract (message : Except PyExc QueueMessage) (backend : Backend) :
    HonoursContract message (publishSync message backend ()) := by
  obtain ⟨now, create, send, flush⟩ := backend
  cases message with
  | error e => exact ⟨rfl, rfl⟩
  | ok m =>
    cases create with
    | error e => exact ⟨rfl, rfl⟩
    | ok _ =>
      cases send with
      | error e => exact ⟨rfl, rfl⟩
      | ok _ => exact ⟨rfl, rfl, m, rfl, List.mem_singleton_self _⟩

/-- The Kafka producer honours the contract exactly when it can be created and what it sends is
delivered. -/
theorem KafkaQueueAdapter.honoursContract_iff (adapter : QueueAdapter)
    {config : KafkaMetricConfig} (hconfig : adapter.config = .kafka config) (backend : Backend)
    (payload : Dict Text Value) :
    HonoursContract (adapter.message backend.now payload) (adapter.publish backend payload ()) ↔
      backend.create = .ok () ∧ ∀ m e, adapter.message backend.now payload = .ok m →
        backend.send = .ok () → backend.flush ≠ .undelivered e := by
  obtain ⟨now, create, send, flush⟩ := backend
  simp only [QueueAdapter.message, QueueAdapter.publish, hconfig, publish]
  generalize buildMessage adapter.messageAttributes now payload = value
  cases create with
  | error e =>
    -- The producer is created outside the `try`.
    exact ⟨fun ⟨_, hreported⟩ => (by cases hreported), fun ⟨hcreate, _⟩ => by cases hcreate⟩
  | ok _ =>
    cases value with
    | error e => exact ⟨fun _ => ⟨rfl, fun m e' hm => (by cases hm)⟩, fun _ => ⟨rfl, rfl⟩⟩
    | ok value =>
      cases send with
      | error e => exact ⟨fun _ => ⟨rfl, fun m e' _ hsend => by cases hsend⟩, fun _ => ⟨rfl, rfl⟩⟩
      | ok _ =>
        cases flush with
        | delivered =>
          exact ⟨fun _ => ⟨rfl, fun m e _ _ hflush => by cases hflush⟩,
            fun _ => ⟨rfl, rfl, _, rfl, List.mem_cons_self⟩⟩
        | undelivered e =>
          -- The future keeps the failure to itself.
          exact ⟨fun ⟨hresult, _⟩ => (by cases hresult), fun h => absurd rfl (h.2 _ e rfl rfl)⟩
        | raised e => exact ⟨fun _ => ⟨rfl, fun m e' _ _ hflush => by cases hflush⟩,
            fun _ => ⟨rfl, rfl⟩⟩

/-- Whether an adapter publishes to Kafka. -/
def QueueAdapter.IsKafka (adapter : QueueAdapter) : Prop :=
  ∃ config, adapter.config = .kafka config

/-- **Which adapters honour the publish contract**: SQS and Redis always, and Kafka exactly when
the producer can be created and what it sends is delivered. -/
theorem publish_honoursContract_iff (adapter : QueueAdapter) (backend : Backend)
    (payload : Dict Text Value) :
    HonoursContract (adapter.message backend.now payload) (adapter.publish backend payload ()) ↔
      (adapter.IsKafka → backend.create = .ok () ∧ ∀ m e,
        adapter.message backend.now payload = .ok m → backend.send = .ok () →
          backend.flush ≠ .undelivered e) := by
  cases hconfig : adapter.config with
  | sqs config =>
    have hnot : ¬ adapter.IsKafka := by simp [QueueAdapter.IsKafka, hconfig]
    refine iff_of_true ?_ fun hkafka => absurd hkafka hnot
    simp only [QueueAdapter.message, QueueAdapter.publish, hconfig]
    exact publishSync_honoursContract _ backend
  | redis config =>
    have hnot : ¬ adapter.IsKafka := by simp [QueueAdapter.IsKafka, hconfig]
    refine iff_of_true ?_ fun hkafka => absurd hkafka hnot
    simp only [QueueAdapter.message, QueueAdapter.publish, hconfig]
    exact publishSync_honoursContract _ backend
  | kafka config =>
    rw [KafkaQueueAdapter.honoursContract_iff adapter hconfig]
    exact ⟨fun h _ => h, fun h => h ⟨config, hconfig⟩⟩

/-- A Kafka adapter. -/
def pipelineTopic : QueueAdapter where
  config := .kafka { bootstrapServers := "broker:9092", topic := "pipeline-metrics", key := none }
  messageAttributes := []

/-- A Kafka cluster that takes a message and loses it. -/
def lossyCluster : Backend where
  now := "2024-01-01T00:00:00+00:00"
  create := .ok ()
  send := .ok ()
  flush := .undelivered (.external "KafkaTimeoutError")

/-- A Kafka cluster without a reachable broker. -/
def unreachableCluster : Backend :=
  { lossyCluster with create := .error (.external "NoBrokersAvailable") }

/-- A lost message is published without an error, and an unreachable cluster is not reported. -/
theorem not_honoursContract_pipelineTopic :
    (pipelineTopic.publish lossyCluster [] ()).result = .ok () ∧
      ¬ HonoursContract (pipelineTopic.message lossyCluster.now [])
        (pipelineTopic.publish lossyCluster [] ()) ∧
      reportedErrors (pipelineTopic.publish unreachableCluster [] ()).log = [] ∧
      ¬ HonoursContract (pipelineTopic.message unreachableCluster.now [])
        (pipelineTopic.publish unreachableCluster [] ()) :=
  ⟨rfl, fun ⟨hresult, _⟩ => (by cases hresult), rfl, fun ⟨_, hreported⟩ => by cases hreported⟩

end BatchIngestion
