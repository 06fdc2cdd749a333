import BatchIngestion.PrimaryQueue
import BatchIngestion.Python.ValueRoundTrip

/-!
# What a consumer reads in a metric message

The three adapters lay out a payload in different ways: SQS writes it as one JSON body and keeps
the message attributes beside it, Kafka merges the attributes into one JSON object, and Redis
merges them into the fields of a stream entry, of which only lists and dictionaries are JSON. A
consumer gets every entry back that no attribute hides, each in the form of its queue.
-/

namespace BatchIngestion

open Python Library

variable {float : Text → Option Text}

/-! ### Reading a message -/

/-- An entry of a JSON object. -/
def jsonEntry (float : Text → Option Text) (text key : Text) : Option Value :=
  match Value.loads float text with
  | some (.dict items) => Dict.get? items key
  | _ => none

/-- What a consumer reads under a key: an entry of the JSON body, or the text of a field. -/
def QueueMessage.entry (float : Text → Option Text) (key : Text) : QueueMessage → Option Value
  | .sqs _ body _ => jsonEntry float body key
  | .redis _ fields _ => (Dict.get? fields key).map .str
  | .kafka _ value _ => jsonEntry float value key

/-- A value reaches a consumer through the queue of a configuration as another one. -/
def MetricConfig.Delivers (float : Text → Option Text) (config : MetricConfig)
    (value received : Value) : Prop :=
  match config with
  | .sqs _ => received = value
  | .redis _ => ∃ text, received = .str text ∧ value.ToldBy float text
  | .kafka _ => received = value.withTexts

/-- The entries that an adapter sends: with SQS, the attributes and the time are no part of the
body, and with Redis, the attributes are texts. -/
def QueueAdapter.envelope (adapter : QueueAdapter) (now : Text) (payload : Dict Text Value) :
    Dict Text Value :=
  let stamped (attributes : Dict Text Value) : Dict Text Value :=
    Dict.set (Dict.update payload attributes) "published_at" (.str now)
  match adapter.config with
  | .sqs _ => payload
  | .redis _ => stamped ((attributeTexts adapter.messageAttributes).map fun item =>
      (item.1, .str item.2))
  | .kafka _ => stamped (attributeValues adapter.messageAttributes)

/-- The attributes of an adapter can be read back. -/
def QueueAdapter.ReadableAttributes (float : Text → Option Text) (adapter : QueueAdapter) : Prop :=
  ∀ item ∈ adapter.messageAttributes, item.2.value.Readable float

/-! ### The forms of the three queues -/

/-- The fields of a stream entry tell the values of the payload. -/
theorem related_fields {payload : Dict Text Value} {fields : Dict Text Text}
    (h : (payload.mapM fun (k, v) => do return (k, ← Value.dumpsOrStr v) : Except PyExc _) =
      .ok fields)
    (hreadable : ∀ item ∈ payload, item.2.Readable float) :
    Dict.Related (fun v text => v.ToldBy float text) payload fields := by
  induction payload generalizing fields with
  | nil =>
    obtain rfl := Except.ok.inj h
    exact .nil
  | cons item payload ih =>
    obtain ⟨hitem, hpayload⟩ := List.forall_mem_cons.mp hreadable
    rw [List.mapM_cons] at h
    obtain ⟨field, hfield, h⟩ := bind_eq_ok_iff.mp h
    obtain ⟨fields', hfields, h⟩ := bind_eq_ok_iff.mp h
    obtain rfl := Except.ok.inj h
    obtain ⟨text, htext, hfield⟩ := bind_eq_ok_iff.mp hfield
    obtain rfl := Except.ok.inj hfield
    exact .cons ⟨rfl, Value.toldBy_of_dumpsOrStr htext hitem⟩ (ih hfields hpayload)

/-- Texts tell themselves. -/
theorem related_texts (texts : Dict Text Text) :
    Dict.Related (fun v text => Value.ToldBy float text v)
      (texts.map fun item => (item.1, Value.str item.2)) texts := by
  induction texts with
  | nil => exact .nil
  | cons item texts ih => exact .cons ⟨rfl, rfl⟩ ih

/-- The merged entries are readable when the payload and the attributes are. -/
theorem readable_merged {payload attributes : Dict Text Value}
    (hreadable : (Value.dict payload).Readable float)
    (hattributes : ∀ item ∈ attributes, item.2.Readable float) (now : Text) :
    (Value.dict (Dict.set (Dict.update payload attributes) "published_at" (.str now))).Readable
      float := by
  obtain ⟨hkeys, hitems⟩ := hreadable
  refine ⟨Dict.nodup_keys_set (Dict.nodup_keys_update hkeys _) _ _,
    Value.readableMembers_iff.mpr fun item hitem => ?_⟩
  rcases Dict.mem_set hitem with rfl | hitem
  · trivial
  · rcases Dict.mem_update hitem with hitem | hitem
    · exact hattributes item hitem
    · exact Value.readableMembers_iff.mp hitems item hitem

/-- The body of an SQS message is the payload. -/
theorem SQSQueueAdapter.entry_buildMessage {config : SQSMetricConfig}
    {attributes : Dict Text MessageAttribute} {now : Text} {payload : Dict Text Value}
    {m : QueueMessage} (h : buildMessage config attributes now payload = .ok m)
    (hreadable : (Value.dict payload).Readable float) (key : Text) :
    m.entry float key = Dict.get? payload key := by
  obtain ⟨body, hbody, h⟩ := bind_eq_ok_iff.mp h
  obtain rfl := Except.ok.inj h
  rw [QueueMessage.entry, jsonEntry, Value.loads_dumps hbody hreadable,
    Value.withTexts_of_dumps hbody]

/-- The fields of a stream entry tell the payload, the attributes and the time. -/
theorem RedisQueueAdapter.related_buildMessage {attributes : Dict Text MessageAttribute}
    {now : Text} {payload : Dict Text Value} {fields : Dict Text Text}
    (h : buildMessage attributes now payload = .ok fields)
    (hreadable : (Value.dict payload).Readable float) :
    Dict.Related (fun v text => v.ToldBy float text)
      (Dict.set (Dict.update payload ((attributeTexts attributes).map fun item =>
        (item.1, .str item.2))) "published_at" (.str now)) fields := by
  obtain ⟨texts, htexts, h⟩ := bind_eq_ok_iff.mp h
  obtain rfl := Except.ok.inj h
  have hpayload := related_fields htexts (Value.readableMembers_iff.mp hreadable.2)
  exact (hpayload.update (related_texts (attributeTexts attributes))).set "published_at"
    (show Value.ToldBy float now (.str now) from rfl)

/-- The value of a Kafka message is the payload with the attributes and the time. -/
theorem KafkaQueueAdapter.loads_buildMessage {attributes : Dict Text MessageAttribute} {now : Text}
    {payload : Dict Text Value} {text : Text} (h : buildMessage attributes now payload = .ok text)
    (hreadable : (Value.dict payload).Readable float)
    (hattributes : ∀ item ∈ attributes, item.2.value.Readable float) :
    Value.loads float text = some (Value.withTexts (.dict (Dict.set
      (Dict.update payload (attributeValues attributes)) "published_at" (.str now)))) := by
  have hvalues : ∀ item ∈ attributeValues attributes, item.2.Readable float := by
    intro item hitem
    obtain ⟨added, hadded, rfl⟩ := List.mem_map.mp hitem
    exact hattributes added hadded
  exact Value.loads_dumps h (readable_merged hreadable hvalues now)

/-- What a consumer reads in the message for a payload. -/
theorem QueueAdapter.entry_of_message {adapter : QueueAdapter} {now : Text}
    {payload : Dict Text Value} {m : QueueMessage}
    (hreadable : (Value.dict payload).Readable float)
    (hattributes : adapter.ReadableAttributes float) (h : adapter.message now payload = .ok m)
    (key : Text) :
    Option.Rel (adapter.config.Delivers float) (Dict.get? (adapter.envelope now payload) key)
      (m.entry float key) := by
  unfold message at h
  cases hconfig : adapter.config with
  | sqs config =>
    rw [hconfig] at h
    rw [SQSQueueAdapter.entry_buildMessage h hreadable key, envelope, hconfig]
    cases Dict.get? payload key with
    | none => exact .none
    | some v => exact .some rfl
  | redis config =>
    rw [hconfig] at h
    obtain ⟨fields, hfields, h⟩ := bind_eq_ok_iff.mp h
    obtain rfl := Except.ok.inj h
    have hentry := (RedisQueueAdapter.related_buildMessage hfields hreadable).get? key
    rw [envelope, hconfig]
    dsimp only
    rw [QueueMessage.entry]
    generalize Dict.get? (Dict.set (Dict.update payload _) _ _) key = v at hentry ⊢
    generalize Dict.get? fields key = text at hentry ⊢
    cases hentry with
    | none => exact .none
    | some hvt => exact .some ⟨_, rfl, hvt⟩
  | kafka config =>
    rw [hconfig] at h
    obtain ⟨text, htext, h⟩ := bind_eq_ok_iff.mp h
    obtain rfl := Except.ok.inj h
    have hloads := KafkaQueueAdapter.loads_buildMessage htext hreadable hattributes
    rw [QueueMessage.entry, jsonEntry, hloads, envelope, hconfig]
    exact (Value.related_withTextsMembers _).get? key

/-- **What is accepted can be read back.** Whatever an adapter hands to its queue and the queue
accepts, a consumer finds every entry of the envelope under its key, in the form of the queue, and
no other entry. -/
theorem accepted_readBack {adapter : QueueAdapter} {backend : Backend}
    {payload : Dict Text Value} (hreadable : (Value.dict payload).Readable float)
    (hattributes : adapter.ReadableAttributes float) {m : QueueMessage}
    (h : m ∈ acceptedMessages (adapter.publish backend payload ()).log)
    (key : Text) :
    Option.Rel (adapter.config.Delivers float)
      (Dict.get? (adapter.envelope backend.now payload) key) (m.entry float key) :=
  QueueAdapter.entry_of_message hreadable hattributes (QueueAdapter.message_of_accepted h) key

/-- A payload with a list, of which an attribute hides the status. -/
def countedPayload : Dict Text Value :=
  [("status", .str "success"), ("counts", .list [.int 3, .none])]

/-- An attribute that is a dictionary. -/
def stagingStatus : MessageAttribute where
  value := .dict [("env".toList, .str "staging")]
  text := "\x7b'env': 'staging'\x7d"
  text_eq h := by cases h
  writable := ⟨"\x7b\"env\": \"staging\"\x7d", by decide +kernel⟩

/-- A Kafka adapter with an attribute. -/
def stagingTopic : QueueAdapter :=
  { pipelineTopic with messageAttributes := [("status".toList, stagingStatus)] }

/-- The list arrives, and the attribute in place of the status. -/
theorem accepted_readBack_countedPayload : ∃ m,
    acceptedMessages (stagingTopic.publish { lossyCluster with flush := .delivered }
      countedPayload ()).log = [m] ∧
    m.entry (fun _ => none) "counts" = some (.list [.int 3, .none]) ∧
    m.entry (fun _ => none) "status" = some (.dict [("env".toList, .str "staging")]) := by
  have hone : (acceptedMessages (stagingTopic.publish
      { lossyCluster with flush := .delivered } countedPayload ()).log).length = 1 := by
    decide +kernel
  obtain ⟨m, hm⟩ := List.length_eq_one_iff.mp hone
  have hreadable : (Value.dict countedPayload).Readable fun _ => none :=
    ⟨by decide +kernel, trivial, ⟨trivial, trivial, trivial⟩, trivial⟩
  have henvelope (key : Text) : Dict.get? (stagingTopic.envelope lossyCluster.now countedPayload)
      key = if "published_at".toList = key then some (.str lossyCluster.now) else
        if "status".toList = key then some stagingStatus.value else
          Dict.get? countedPayload key :=
    (Dict.get?_set ..).trans (congrArg _ (Dict.get?_set ..))
  have hattributes : stagingTopic.ReadableAttributes fun _ => none := by
    rintro item hitem
    obtain rfl := List.mem_singleton.mp hitem
    exact ⟨by decide +kernel, trivial, trivial⟩
  have hread := accepted_readBack hreadable hattributes (hm ▸ List.mem_singleton_self m)
  have hcounts := hread "counts"
  have hstatus := hread "status"
  rw [henvelope, if_neg (by decide +kernel), if_neg (by decide +kernel), countedPayload, Dict.get?,
    if_neg (by decide +kernel), Dict.get?, if_pos rfl] at hcounts
  rw [henvelope, if_neg (by decide +kernel), if_pos rfl] at hstatus
  refine ⟨m, hm, ?_, ?_⟩
  · generalize m.entry (fun _ => none) "counts" = received at hcounts
    obtain ⟨⟨⟩⟩ := hcounts
    rfl
  · generalize m.entry (fun _ => none) "status" = received at hstatus
    obtain ⟨⟨⟩⟩ := hstatus
    rfl

/-! ### The metric task -/

namespace MetricPushOperator

/-- Optional entries keep the keys distinct. -/
theorem nodup_keys_addOptional {payload : Payload} (h : (Dict.keys payload).Nodup) (key : Text)
    (value : Option PayloadValue) : (Dict.keys (addOptional payload key value)).Nodup := by
  cases value with
  | none => exact h
  | some v => exact Dict.nodup_keys_set h _ _

/-- A metric payload has distinct keys. -/
theorem nodup_keys_payload (op : MetricPushOperator) (dagId stopTime : Text) (info : RunInfo)
    (pulled : Pulled) : (Dict.keys (op.payload dagId stopTime info pulled)).Nodup := by
  refine Dict.nodup_keys_update (nodup_keys_addOptional (nodup_keys_addOptional
    (nodup_keys_addOptional ?_ _ _) _ _) _ _) _
  change (["dag_id".toList, "run_id".toList, "status".toList, "start_time".toList,
    "stop_time".toList, "checkpoint_from".toList, "checkpoint_to".toList] : List Text).Nodup
  decide +kernel

end MetricPushOperator

/-- The inline metric has distinct keys. -/
theorem nodup_keys_failurePayload (dagId runId error : Text) :
    (Dict.keys (failurePayload dagId runId error)).Nodup := by
  change (["status".toList, "dag_id".toList, "run_id".toList, "error".toList] : List Text).Nodup
  decide +kernel

/-- A metric payload is readable. -/
theorem readable_toValue {payload : Payload} (h : (Dict.keys payload).Nodup) :
    (Value.dict (payload.map fun (k, v) => (k, v.toValue))).Readable float := by
  constructor
  · simpa [Dict.keys, Function.comp_def] using h
  · refine Value.readableMembers_iff.mpr fun item hitem => ?_
    obtain ⟨entry, -, rfl⟩ := List.mem_map.mp hitem
    obtain ⟨key, v⟩ := entry
    cases v <;> trivial

/-- An adapter has the attributes of its operator. -/
theorem readableAttributes_of_buildMetricAdapter {metricType : MetricAdapterType}
    {raw : MetricConfigRaw} {getSecret : Text → Except PyExc QueueSecret} {adapter : QueueAdapter}
    (h : buildMetricAdapter metricType raw getSecret = .ok adapter)
    (hattributes : ∀ item ∈ raw.messageAttributes, item.2.value.Readable float) :
    adapter.ReadableAttributes float := by
  rw [QueueAdapter.ReadableAttributes, (ofType_of_buildMetricAdapter h).2]
  exact hattributes

/-- **The metric of a run can be read back**, whatever the queue is. -/
theorem publishMetric_readBack {op : MetricPush} {airflow : AirflowContext} {input : MetricInput}
    {adapter : QueueAdapter} {payload : Dict Text Value}
    (h : op.toPublish airflow input = .ok (adapter, payload))
    (hattributes : ∀ item ∈ op.metricConfigRaw.messageAttributes, item.2.value.Readable float)
    {m : QueueMessage} (hm : m ∈ acceptedMessages (op.publishMetric airflow input ()).log)
    (key : Text) :
    Option.Rel (adapter.config.Delivers float)
      (Dict.get? (adapter.envelope airflow.now payload) key)
      (m.entry float key) := by
  have hmessage := MetricPush.message_of_accepted h hm
  obtain ⟨pulled, -, h⟩ := bind_eq_ok_iff.mp h
  obtain ⟨built, hbuilt, h⟩ := bind_eq_ok_iff.mp h
  obtain ⟨_, -, h⟩ := bind_eq_ok_iff.mp h
  obtain ⟨rfl, rfl⟩ := Prod.mk.inj (Except.ok.inj h)
  exact QueueAdapter.entry_of_message
    (readable_toValue (op.nodup_keys_payload airflow.dagId airflow.stopTime airflow.info pulled))
    (readableAttributes_of_buildMetricAdapter hbuilt hattributes) hmessage key

end BatchIngestion
