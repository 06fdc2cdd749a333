import BatchIngestion.Library.Fallible
import BatchIngestion.MetricAdapter

/-!
# The inline metric push

`push_metric_inline` builds a metric adapter from the parameters of an operator and a secret,
validates the connection and publishes a payload. It logs its errors and never raises.
-/

namespace BatchIngestion

open Python Library

/-- The parameter `metric_config_raw` of an operator, by the keys that are looked up. -/
structure MetricConfigRaw where
  /-- `credential_ref`. -/
  credentialRef : Text := []
  /-- `queue_url`. -/
  queueUrl : Option Text := none
  /-- `aws_region`. -/
  awsRegion : Option Text := none
  /-- `host`. -/
  host : Option Text := none
  /-- `port`. -/
  port : Option RawPort := none
  /-- `bootstrap_servers`. -/
  bootstrapServers : Option Text := none
  /-- `stream_name`. -/
  streamName : Option Text := none
  /-- `max_len`, which can be `None`. -/
  maxLen : Option (Option ℤ) := none
  /-- `topic`. -/
  topic : Option Text := none
  /-- `key`. -/
  key : Option Text := none
  /-- `message_attributes`. -/
  messageAttributes : Dict Text MessageAttribute := []

/-- A secret of a metric queue, by the keys that are looked up. -/
structure QueueSecret where
  /-- `queue_url`. -/
  queueUrl : Option Text := none
  /-- `aws_region`. -/
  awsRegion : Option Text := none
  /-- `host`. -/
  host : Option Text := none
  /-- `port`. -/
  port : Option RawPort := none
  /-- `bootstrap_servers`. -/
  bootstrapServers : Option Text := none

/-- `credentials.get(key, metric_config_raw.get(key, default))`. -/
def credentialOr {α : Type} (credential raw : Option α) (default : α) : α :=
  (credential.or raw).getD default

/-- `_build_metric_adapter`. -/
def buildMetricAdapter (metricType : MetricAdapterType) (raw : MetricConfigRaw)
    (getSecret : Text → Except PyExc QueueSecret) : Except PyExc QueueAdapter := do
  let credentials ← if raw.credentialRef = [] then .ok {} else getSecret raw.credentialRef
  let config : MetricConfig ← match metricType with
    | .cloudQueue => .ok (.sqs {
        queueUrl := credentialOr credentials.queueUrl raw.queueUrl []
        awsRegion := credentialOr credentials.awsRegion raw.awsRegion [] })
    | .onpremQueue =>
      (credentialOr credentials.port raw.port (.int 6379)).toInt.map fun port => .redis {
        host := credentialOr credentials.host raw.host []
        port
        streamName := raw.streamName.getD []
        maxLen := raw.maxLen.getD (some 1000) }
    | .kafkaQueue => .ok (.kafka {
        bootstrapServers := credentialOr credentials.bootstrapServers raw.bootstrapServers []
        topic := raw.topic.getD []
        key := raw.key })
  return { config, messageAttributes := raw.messageAttributes }

/-- How the metric backend behaves during one push. -/
structure MetricWorld where
  /-- `hook.get_secret`. -/
  getSecret : Text → Except PyExc QueueSecret
  /-- `adapter.validate_connection`. -/
  validate : Except PyExc Bool
  /-- The queue during `publish`. -/
  backend : Backend

/-- `push_metric_inline`. -/
def pushMetricInline (payload : Dict Text Value) (metricType : MetricAdapterType)
    (raw : MetricConfigRaw) (world : MetricWorld) : MetricAction Unit :=
  Procedure.suppress (do
      let adapter ← MetricAction.step (buildMetricAdapter metricType raw world.getSecret)
      let _ ← MetricAction.step world.validate
      adapter.publish world.backend payload)
    fun _ => pure ()

/-- A push does not raise. -/
theorem pushMetricInline_result (payload : Dict Text Value) (metricType : MetricAdapterType)
    (raw : MetricConfigRaw) (world : MetricWorld) :
    (pushMetricInline payload metricType raw world ()).result = .ok () := by
  unfold pushMetricInline Procedure.suppress
  split
  · rfl
  · rfl

/-- A backend that works: the adapter can be built, and no step of a push fails. -/
structure MetricWorld.Healthy (world : MetricWorld) (metricType : MetricAdapterType)
    (raw : MetricConfigRaw) (adapter : QueueAdapter) : Prop where
  /-- The adapter is built. -/
  built : buildMetricAdapter metricType raw world.getSecret = .ok adapter
  /-- The connection is valid. -/
  validate : ∃ b, world.validate = .ok b
  /-- The client is created. -/
  create : world.backend.create = .ok ()
  /-- The message is sent. -/
  send : world.backend.send = .ok ()
  /-- The message is delivered. -/
  flush : world.backend.flush = .delivered

/-- A client that answers accepts the message. -/
theorem accepted_of_publishSync {backend : Backend} {m : QueueMessage}
    (hcreate : backend.create = .ok ()) (hsend : backend.send = .ok ()) :
    .accepted m ∈ (publishSync (.ok m) backend ()).log := by
  obtain ⟨now, create, send, flush⟩ := backend
  obtain rfl : create = .ok () := hcreate
  obtain rfl : send = .ok () := hsend
  exact List.mem_singleton_self _

/-- A message that can be built is accepted by a queue that works. -/
theorem QueueAdapter.accepted_of_publish {adapter : QueueAdapter} {backend : Backend}
    {payload : Dict Text Value} {m : QueueMessage}
    (hmessage : adapter.message backend.now payload = .ok m) (hcreate : backend.create = .ok ())
    (hsend : backend.send = .ok ()) (hflush : backend.flush = .delivered) :
    .accepted m ∈ (adapter.publish backend payload ()).log := by
  unfold message at hmessage
  unfold publish
  split at hmessage
  · rename_i config hconfig
    rw [hconfig]
    dsimp only
    rw [SQSQueueAdapter.publish, hmessage]
    exact accepted_of_publishSync hcreate hsend
  · rename_i config hconfig
    obtain ⟨fields, hfields, hm⟩ := bind_eq_ok_iff.mp hmessage
    obtain rfl := Except.ok.inj hm
    rw [hconfig]
    dsimp only
    rw [RedisQueueAdapter.publish, hfields]
    exact accepted_of_publishSync hcreate hsend
  · rename_i config hconfig
    obtain ⟨value, hvalue, hm⟩ := bind_eq_ok_iff.mp hmessage
    obtain rfl := Except.ok.inj hm
    obtain ⟨now, create, send, flush⟩ := backend
    obtain rfl : create = .ok () := hcreate
    obtain rfl : send = .ok () := hsend
    obtain rfl : flush = .delivered := hflush
    rw [hconfig]
    dsimp only
    rw [KafkaQueueAdapter.publish, hvalue]
    exact List.mem_cons_self

/-- **A healthy backend publishes**: the adapter's message for the payload is accepted. -/
theorem MetricWorld.Healthy.accepted {world : MetricWorld} {metricType : MetricAdapterType}
    {raw : MetricConfigRaw} {adapter : QueueAdapter} (h : world.Healthy metricType raw adapter)
    {payload : Dict Text Value} {m : QueueMessage}
    (hmessage : adapter.message world.backend.now payload = .ok m) :
    .accepted m ∈ (pushMetricInline payload metricType raw world ()).log := by
  obtain ⟨b, hvalidate⟩ := h.validate
  have haccepted := QueueAdapter.accepted_of_publish hmessage h.create h.send h.flush
  have hbody : (do
      let adapter ← MetricAction.step (buildMetricAdapter metricType raw world.getSecret)
      let _ ← MetricAction.step world.validate
      adapter.publish world.backend payload : MetricAction Unit) () =
      adapter.publish world.backend payload () := by
    rw [h.built, hvalidate]
    rfl
  simp only [pushMetricInline, Procedure.suppress, hbody]
  split
  · exact haccepted
  · exact List.mem_append_left _ haccepted

/-- Members that have a JSON text make up one. -/
theorem exists_dumpsMembers {defaultStr : Bool} {items : List (Text × Value)}
    (h : ∀ item ∈ items, ∃ t, item.2.dumps defaultStr = .ok t) :
    ∃ texts, Value.dumpsMembers defaultStr items = .ok texts := by
  induction items with
  | nil => exact ⟨[], rfl⟩
  | cons item items ih =>
    obtain ⟨⟨t, ht⟩, hitems⟩ := List.forall_mem_cons.mp h
    obtain ⟨texts, htexts⟩ := ih hitems
    exact ⟨_, by rw [Value.dumpsMembers, ht, htexts]; rfl⟩

/-- Fields that are strings are kept. -/
theorem exists_fields_of_strings {items : List (Text × Value)}
    (h : ∀ item ∈ items, ∃ s, item.2 = .str s) :
    ∃ fields : Dict Text Text,
      (items.mapM fun (k, v) => do return (k, ← Value.dumpsOrStr v) : Except PyExc _) =
        .ok fields := by
  induction items with
  | nil => exact ⟨[], rfl⟩
  | cons item items ih =>
    obtain ⟨⟨s, hs⟩, hitems⟩ := List.forall_mem_cons.mp h
    obtain ⟨fields, hfields⟩ := ih hitems
    obtain ⟨k, v⟩ := item
    obtain rfl : v = .str s := hs
    exact ⟨(k, s) :: fields, by rw [List.mapM_cons, hfields]; rfl⟩

/-- A payload of strings can be built into a message by every adapter. -/
theorem QueueAdapter.exists_message_of_strings (adapter : QueueAdapter) (now : Text)
    {payload : Dict Text Value} (h : ∀ item ∈ payload, ∃ s, item.2 = .str s) :
    ∃ m, adapter.message now payload = .ok m := by
  have hwritable (defaultStr : Bool) :
      ∀ item ∈ payload, ∃ t, item.2.dumps defaultStr = .ok t := by
    intro item hitem
    obtain ⟨s, hs⟩ := h item hitem
    exact ⟨jsonString s, by rw [hs, Value.dumps]⟩
  unfold message
  split
  · obtain ⟨texts, htexts⟩ := exists_dumpsMembers (hwritable false)
    exact ⟨_, by rw [SQSQueueAdapter.buildMessage, Value.dumps, htexts]; rfl⟩
  · obtain ⟨fields, hfields⟩ := exists_fields_of_strings h
    exact ⟨_, by rw [RedisQueueAdapter.buildMessage, hfields]; rfl⟩
  · have henvelope : ∀ item ∈ Dict.set (Dict.update payload
        (attributeValues adapter.messageAttributes)) "published_at".toList (.str now),
        ∃ t, item.2.dumps true = .ok t := by
      intro item hitem
      rcases Dict.mem_set hitem with rfl | hitem
      · exact ⟨jsonString now, rfl⟩
      · rcases Dict.mem_update hitem with hitem | hitem
        · obtain ⟨added, -, rfl⟩ := List.mem_map.mp hitem
          exact added.2.writable
        · exact hwritable true item hitem
    obtain ⟨texts, htexts⟩ := exists_dumpsMembers henvelope
    exact ⟨_, by rw [KafkaQueueAdapter.buildMessage, Value.dumps, htexts]; rfl⟩

end BatchIngestion
