import BatchIngestion.Envelope
import BatchIngestion.Library.Loop
import BatchIngestion.SparkSession

/-!
# The seeding of the demo DAG

`DemoInitOperator` produces sample orders into the topic of a Kafka pipeline and then goes
through the steps of `InitOperator`, which no Kafka source passes. An attempt at the init task
of the demo DAG leaves its orders in the topic and fails.
-/

namespace BatchIngestion

open Python Library Procedure

/-! ### The operator -/

/-- The parameters of a `DemoInitOperator`. -/
structure DemoInitOperator where
  /-- `num_records`. -/
  numRecords : ℤ
  /-- `demo_records`. -/
  demoRecords : Option (List Value)

/-- The keyword arguments of the producer, but for the serializer and `acks`. -/
structure ProducerKwargs where
  /-- `bootstrap_servers`. -/
  bootstrapServers : List Text
  /-- `sasl_plain_username` and `sasl_plain_password`, with the protocol and the mechanism. -/
  sasl : Option (Text × Text)

/-- What the environment contributes to an attempt. -/
structure SeedWorld where
  /-- `_load_config`. -/
  load : Except PyExc PipelineConfig
  /-- `openbao.get_secret` for the producer. -/
  getSecret : Text → Except PyExc Secret
  /-- The orders that `_generate_order` gives, by the number of the call. -/
  generated : ℕ → Value
  /-- `KafkaProducer`. -/
  create : ProducerKwargs → Except PyExc Unit
  /-- What `send` raises for a record, but for the serializer. -/
  send : Value → Except PyExc Unit
  /-- `flush`. -/
  flush : Except PyExc Unit
  /-- `close`. -/
  close : Except PyExc Unit
  /-- `_load_config` of the steps of `InitOperator`. -/
  reload : Except PyExc PipelineConfig
  /-- The environment of these steps. -/
  env : InitOperator.Env

/-- The messages that the producers took for each topic, oldest first. -/
abbrev Topics := Text → List Text

/-- The topics after more messages for one of them. -/
def Topics.push (topics : Topics) (topic : Text) (texts : List Text) : Topics :=
  Function.update topics topic (topics topic ++ texts)

/-- A procedure of the task. Its log has an entry for each producer that is closed. -/
abbrev SeedAction (α : Type) := Procedure PyExc Topics Unit α

/-- The keyword arguments that a secret leads to. -/
def producerKwargs (credentials : Secret) : ProducerKwargs where
  bootstrapServers := (credentials.bootstrapServers.getD []).splitOn ','
  sasl :=
    match truthy (credentials.text? "sasl_username"),
      truthy (credentials.text? "sasl_password") with
    | some username, some password => some (username, password)
    | _, _ => none

namespace DemoInitOperator

/-- `self.demo_records or [...]`. -/
def records (op : DemoInitOperator) (world : SeedWorld) : List Value :=
  match op.demoRecords with
  | some (record :: records) => record :: records
  | _ => (List.range op.numRecords.toNat).map world.generated

/-- `producer.send`, with the serializer. -/
def send (world : SeedWorld) (topic : Text) (record : Value) : SeedAction Unit := do
  ofExcept (world.send record)
  let text ← ofExcept (Value.dumps false record)
  modify fun topics => topics.push topic [text]

/-- `_seed_kafka` up to the producer: the topic it is for. -/
def openProducer (world : SeedWorld) (cfg : PipelineConfig) : Except PyExc Text := do
  let source ← requireKey "source" cfg.source
  let topic ← requireKey "topic" source.topic
  let credentialRef ← requireKey "credential_ref" source.credentialRef
  let credentials ← world.getSecret credentialRef
  world.create (producerKwargs credentials)
  return topic

/-- `_seed_kafka`. -/
def seedKafka (op : DemoInitOperator) (world : SeedWorld) (cfg : PipelineConfig) :
    SeedAction Unit := do
  let topic ← ofExcept (openProducer world cfg)
  ensuring (do
      (op.records world).forM (send world topic)
      ofExcept world.flush)
    (do
      emit ()
      ofExcept world.close)

/-- `execute`. -/
def execute (op : DemoInitOperator) (world : SeedWorld) : SeedAction RunContext := do
  let cfg ← ofExcept world.load
  let value ← ofExcept (requireKey "read_type" cfg.readType)
  let readType ← ofExcept (ReadAdapterType.ofValue value)
  if readType = .kafka then op.seedKafka world cfg
  let cfg ← ofExcept world.reload
  ofExcept (InitOperator.execute world.env cfg)

/-- The outcomes of attempts one after the other, and the topics after them. -/
def attempts (op : DemoInitOperator) (topics : Topics) :
    List SeedWorld → List (Except PyExc RunContext) × Topics
  | [] => ([], topics)
  | world :: worlds =>
    let out := op.execute world topics
    let rest := attempts op out.state worlds
    (out.result :: rest.1, rest.2)

end DemoInitOperator

/-! ### Kafka sources do not pass -/

/-- The steps of the init task do not return for a Kafka source. -/
theorem InitOperator.readType_of_execute {env : Env} {cfg : PipelineConfig} {ctx : RunContext}
    (h : execute env cfg = .ok ctx) : cfg.readType ≠ some ReadAdapterType.kafka.value := by
  intro hkafka
  have hcoherent := coherent_of_execute h
  have htype : ctx.readType = .kafka := by
    obtain ⟨readType, hread, h⟩ := bind_eq_ok_iff.mp h
    obtain ⟨writeType, -, h⟩ := bind_eq_ok_iff.mp h
    obtain ⟨metricType, -, h⟩ := bind_eq_ok_iff.mp h
    obtain ⟨source, -, h⟩ := bind_eq_ok_iff.mp h
    obtain ⟨sink, -, h⟩ := bind_eq_ok_iff.mp h
    obtain ⟨configs, -, h⟩ := bind_eq_ok_iff.mp h
    obtain ⟨sourceCredentials, -, h⟩ := bind_eq_ok_iff.mp h
    obtain ⟨sourceConfig, -, h⟩ := bind_eq_ok_iff.mp h
    obtain ⟨sinkCredentials, -, h⟩ := bind_eq_ok_iff.mp h
    obtain ⟨metricCredentials, -, h⟩ := bind_eq_ok_iff.mp h
    obtain ⟨row, -, h⟩ := bind_eq_ok_iff.mp h
    obtain ⟨checkpointFrom, -, h⟩ := bind_eq_ok_iff.mp h
    obtain rfl := Except.ok.inj h
    rw [hkafka] at hread
    exact Except.ok.inj (hread.symm.trans (ReadAdapterType.ofValue_value .kafka))
  have hbuilt := hcoherent.source_built
  have hvalid := hcoherent.isTableOrPath
  rw [hcoherent.sink_source] at hvalid
  rw [htype] at hbuilt
  cases hconfig : ctx.sourceConfig with
  | table c =>
    rw [hconfig] at hbuilt
    simpa using hbuilt.1
  | path c =>
    rw [hconfig] at hbuilt
    rcases hbuilt with htype | htype <;> cases htype
  | kafka c => simp [hconfig, SourceConfig.isTableOrPath] at hvalid

/-! ### What an attempt leaves -/

namespace Topics

variable {topics : Topics} {topic other : Text} {texts more : List Text}

/-- The topic has the messages at its end. -/
@[simp] theorem push_self : topics.push topic texts topic = topics topic ++ texts :=
  Function.update_self _ _ _

/-- The other topics stay as they are. -/
theorem push_of_ne (h : other ≠ topic) : topics.push topic texts other = topics other :=
  Function.update_of_ne h _ _

/-- No message changes nothing. -/
@[simp] theorem push_nil : topics.push topic [] = topics := by
  simp [push]

/-- Messages one after the other. -/
@[simp] theorem push_push : (topics.push topic texts).push topic more =
    topics.push topic (texts ++ more) := by
  simp [push, List.append_assoc]

end Topics

/-- The messages are what `json.dumps` makes of the records. -/
abbrev Serialized : List Value → List Text → Prop :=
  List.Forall₂ fun record text => record.dumps false = .ok text

namespace DemoInitOperator

variable {op : DemoInitOperator} {world : SeedWorld} {topic : Text} {topics topics' : Topics}
  {record : Value} {records : List Value} {cfg : PipelineConfig}

/-- A sent record is a message at the end of its topic. -/
theorem completes_send_iff : Completes (send world topic record) topics topics' ↔
    world.send record = .ok () ∧
      ∃ text, record.dumps false = .ok text ∧ topics' = topics.push topic [text] := by
  unfold Completes send
  cases hsend : world.send record with
  | error e => simp
  | ok =>
    cases htext : record.dumps false with
    | error e => simp
    | ok text => simp [modify_eq, eq_comm]

/-- A record that cannot be sent leaves no message. -/
theorem state_of_send {e : PyExc} (h : (send world topic record topics).result = .error e) :
    (send world topic record topics).state = topics := by
  revert h
  unfold send
  cases hsend : world.send record with
  | error e => simp
  | ok =>
    cases htext : record.dumps false with
    | error e => simp
    | ok text => simp [modify_eq]

/-- Sent records are messages in their order. -/
theorem completes_sends_iff :
    Completes (records.forM (send world topic)) topics topics' ↔
      (∀ record ∈ records, world.send record = .ok ()) ∧
        ∃ texts, Serialized records texts ∧ topics' = topics.push topic texts := by
  induction records generalizing topics with
  | nil =>
    rw [completes_forM_nil]
    simp [eq_comm]
  | cons record records ih =>
    rw [completes_forM_cons_iff]
    constructor
    · rintro ⟨mid, hfirst, hrest⟩
      obtain ⟨hsend, text, htext, rfl⟩ := completes_send_iff.mp hfirst
      obtain ⟨hsends, texts, htexts, rfl⟩ := ih.mp hrest
      exact ⟨List.forall_mem_cons.mpr ⟨hsend, hsends⟩, text :: texts, .cons htext htexts,
        Topics.push_push⟩
    · rintro ⟨hsends, texts, htexts, rfl⟩
      obtain ⟨hsend, hsends⟩ := List.forall_mem_cons.mp hsends
      cases htexts with
      | @cons _ text _ texts htext htexts =>
        exact ⟨_, completes_send_iff.mpr ⟨hsend, text, htext, rfl⟩,
          ih.mpr ⟨hsends, texts, htexts, by simp⟩⟩

/-- The records that a loop sent are the first ones, and all of them when nothing fails. -/
theorem exists_sent (world : SeedWorld) (topic : Text) (records : List Value) (topics : Topics) :
    ∃ sent texts, sent <+: records ∧ Serialized sent texts ∧
      (records.forM (send world topic) topics).state = topics.push topic texts ∧
      ((∀ record ∈ records, world.send record = .ok ()) → (∃ texts, Serialized records texts) →
        sent = records) := by
  rcases completes_forM_or_raises (send world topic) records topics with
    ⟨last, hlast⟩ | ⟨sent, record, mid, e, hprefix, hsent, herror, hresult, hstate⟩
  · obtain ⟨-, texts, htexts, hpush⟩ := completes_sends_iff.mp hlast
    exact ⟨records, texts, List.prefix_rfl, htexts, hlast.2.trans hpush, fun _ _ => rfl⟩
  · obtain ⟨-, texts, htexts, hpush⟩ := completes_sends_iff.mp hsent
    refine ⟨sent, texts, (List.prefix_append _ _).trans hprefix, htexts, ?_, ?_⟩
    · rw [hstate, state_of_send herror, hpush]
    · rintro hsends ⟨all, hall⟩
      have hcompletes : Completes (records.forM (send world topic)) topics
          (topics.push topic all) := completes_sends_iff.mpr ⟨hsends, all, hall, rfl⟩
      exact absurd (hresult.symm.trans hcompletes.1) (by simp)

end DemoInitOperator

/-- The topic that an attempt produces into. -/
def SeedWorld.topic? (world : SeedWorld) : Option Text := do
  let cfg ← world.load.toOption
  if cfg.readType = some ReadAdapterType.kafka.value then cfg.source.bind (·.topic) else none

/-- The producer of an attempt takes all its records for the topic. -/
structure SeedWorld.Produces (world : SeedWorld) (records : List Value) (topic : Text) : Prop where
  /-- The pipeline reads a topic. -/
  reads : world.topic? = some topic
  /-- The producer is created. -/
  creates : ∃ cfg, world.load = .ok cfg ∧ DemoInitOperator.openProducer world cfg = .ok topic
  /-- No record is refused. -/
  sends : ∀ record ∈ records, world.send record = .ok ()
  /-- Every record can be serialized. -/
  serialized : ∃ texts, Serialized records texts

/-- An attempt appends the messages to the topic: its first records, none of them when the
pipeline does not read the topic, and all of them when the producer takes them. -/
def SeedWorld.Leaves (world : SeedWorld) (records : List Value) (topic : Text)
    (texts : List Text) : Prop :=
  ∃ sent, sent <+: records ∧ Serialized sent texts ∧
    (world.topic? ≠ some topic → sent = []) ∧ (world.Produces records topic → sent = records)

/-- An attempt without a producer appends nothing. -/
theorem SeedWorld.leaves_nil {world : SeedWorld} {records : List Value} {topic : Text}
    (h : ¬ world.Produces records topic) : world.Leaves records topic [] :=
  ⟨[], List.nil_prefix, .nil, fun _ => rfl, fun hproduces => absurd hproduces h⟩

namespace DemoInitOperator

variable {op : DemoInitOperator} {world : SeedWorld} {cfg : PipelineConfig}

/-- The steps after the seeding do not touch the topics. -/
theorem state_of_steps (x : Except PyExc PipelineConfig)
    (g : PipelineConfig → Except PyExc RunContext) (topics : Topics) :
    (((ofExcept x : SeedAction PipelineConfig) >>= fun cfg => ofExcept (g cfg)) topics).state =
      topics :=
  state_bind_of_frame (fun _ _ => rfl) topics

/-- The producer is for the topic of the `source` section. -/
theorem topic_of_openProducer {topic : Text} (h : openProducer world cfg = .ok topic) :
    cfg.source.bind (·.topic) = some topic := by
  obtain ⟨source, hsource, h⟩ := bind_eq_ok_iff.mp h
  obtain ⟨name, hname, h⟩ := bind_eq_ok_iff.mp h
  obtain ⟨credentialRef, -, h⟩ := bind_eq_ok_iff.mp h
  obtain ⟨credentials, -, h⟩ := bind_eq_ok_iff.mp h
  obtain ⟨-, -, h⟩ := bind_eq_ok_iff.mp h
  obtain rfl := Except.ok.inj h
  rw [requireKey_eq_ok_iff.mp hsource]
  exact requireKey_eq_ok_iff.mp hname

/-- The seeding leaves the state of its loop. -/
theorem state_of_seedKafka {name : Text} (h : openProducer world cfg = .ok name)
    (topics : Topics) :
    (op.seedKafka world cfg topics).state =
      ((op.records world).forM (send world name) topics).state := by
  rw [seedKafka, h, ofExcept_ok_bind]
  exact state_bind_of_frame (fun _ _ => rfl) topics

/-- What the seeding leaves in a topic. -/
theorem leaves_of_seedKafka (hload : world.load = .ok cfg)
    (htype : cfg.readType = some ReadAdapterType.kafka.value) (topics : Topics) (topic : Text) :
    ∃ texts, world.Leaves (op.records world) topic texts ∧
      (op.seedKafka world cfg topics).state topic = topics topic ++ texts := by
  have hread : world.topic? = cfg.source.bind (·.topic) := by
    simp [SeedWorld.topic?, hload, Except.toOption, htype]
  cases hopen : openProducer world cfg with
  | error e =>
    refine ⟨[], SeedWorld.leaves_nil fun h => ?_, by simp [seedKafka, hopen]⟩
    obtain ⟨cfg', hload', hopen'⟩ := h.creates
    obtain rfl := Except.ok.inj (hload.symm.trans hload')
    exact absurd (hopen.symm.trans hopen') (by simp)
  | ok name =>
    have hname : world.topic? = some name := hread.trans (topic_of_openProducer hopen)
    obtain ⟨sent, texts, hprefix, htexts, hstate, hall⟩ :=
      exists_sent world name (op.records world) topics
    rw [state_of_seedKafka hopen, hstate]
    by_cases htopic : topic = name
    · subst htopic
      exact ⟨texts, ⟨sent, hprefix, htexts, fun h => absurd hname h,
        fun h => hall h.sends h.serialized⟩, Topics.push_self⟩
    · refine ⟨[], SeedWorld.leaves_nil fun h => htopic ?_, ?_⟩
      · exact Option.some.inj (h.reads.symm.trans hname)
      · rw [Topics.push_of_ne htopic, List.append_nil]

/-- What an attempt leaves in a topic. -/
theorem exists_leaves (op : DemoInitOperator) (world : SeedWorld) (topics : Topics)
    (topic : Text) : ∃ texts, world.Leaves (op.records world) topic texts ∧
      (op.execute world topics).state topic = topics topic ++ texts := by
  have hnothing : ¬ world.Produces (op.records world) topic →
      (op.execute world topics).state = topics → ∃ texts,
        world.Leaves (op.records world) topic texts ∧
          (op.execute world topics).state topic = topics topic ++ texts := by
    intro hnot hstate
    exact ⟨[], SeedWorld.leaves_nil hnot, by rw [hstate, List.append_nil]⟩
  cases hload : world.load with
  | error e =>
    refine hnothing (fun h => ?_) (by simp [execute, hload])
    obtain ⟨cfg, hcfg, -⟩ := h.creates
    exact absurd (hload.symm.trans hcfg) (by simp)
  | ok cfg =>
    by_cases htype : cfg.readType = some ReadAdapterType.kafka.value
    · have hstate : (op.execute world topics).state = (op.seedKafka world cfg topics).state := by
        rw [execute, hload, ofExcept_ok_bind, htype, requireKey, ofExcept_ok_bind,
          ReadAdapterType.ofValue_value, ofExcept_ok_bind, if_pos rfl]
        exact state_bind_of_frame (fun _ => state_of_steps _ _) topics
      rw [hstate]
      exact leaves_of_seedKafka hload htype topics topic
    · refine hnothing (fun h => ?_) ?_
      · have hread := h.reads
        simp [SeedWorld.topic?, hload, Except.toOption, htype] at hread
      · rw [execute, hload, ofExcept_ok_bind]
        cases hkey : requireKey "read_type".toList cfg.readType with
        | error e => rw [ofExcept_error_bind]
        | ok value =>
          rw [ofExcept_ok_bind]
          cases hvalue : ReadAdapterType.ofValue value with
          | error e => rw [ofExcept_error_bind]
          | ok readType =>
            have hne : readType ≠ .kafka := by
              rintro rfl
              rw [requireKey_eq_ok_iff.mp hkey] at htype
              exact htype (congrArg some (ReadAdapterType.value_of_ofValue hvalue))
            rw [ofExcept_ok_bind, if_neg hne]
            exact state_of_steps _ _ topics

/-- An attempt returns what the steps of `InitOperator` return. -/
theorem returns_execute (op : DemoInitOperator) (world : SeedWorld) :
    Returns (op.execute world) fun ctx =>
      ∃ cfg, world.reload = .ok cfg ∧ InitOperator.execute world.env cfg = .ok ctx := by
  have hsteps : Returns ((ofExcept world.reload : SeedAction PipelineConfig) >>= fun cfg =>
      ofExcept (InitOperator.execute world.env cfg)) fun ctx =>
        ∃ cfg, world.reload = .ok cfg ∧ InitOperator.execute world.env cfg = .ok ctx :=
    (Returns.ofExcept _).bind fun cfg hcfg =>
      (Returns.ofExcept _).conseq (fun _ _ => trivial) fun ctx _ hctx => ⟨cfg, hcfg, hctx⟩
  refine Returns.any.bind fun _ _ => Returns.any.bind fun _ _ => Returns.any.bind fun type _ => ?_
  by_cases htype : type = .kafka
  · rw [if_pos htype]
    exact Returns.any.bind fun _ _ => hsteps
  · rw [if_neg htype]
    exact hsteps

/-- **Every attempt at the init task of a Kafka pipeline fails, and seeds the topic again**: of
its records the first ones are appended, all of them when the producer works, and no other topic
gets a message. -/
theorem seeding_repeats (op : DemoInitOperator) (topics : Topics) (worlds : List SeedWorld)
    (hkafka : ∀ world ∈ worlds, ∀ cfg, world.reload = .ok cfg →
      cfg.readType = some ReadAdapterType.kafka.value) :
    (∀ result ∈ (op.attempts topics worlds).1, ∃ e, result = .error e) ∧
      ∀ topic, ∃ texts,
        List.Forall₂ (fun world => world.Leaves (op.records world) topic) worlds texts ∧
          (op.attempts topics worlds).2 topic = topics topic ++ texts.flatten := by
  induction worlds generalizing topics with
  | nil => exact ⟨fun result hresult => absurd hresult List.not_mem_nil, fun topic =>
      ⟨[], .nil, (List.append_nil _).symm⟩⟩
  | cons world worlds ih =>
    obtain ⟨hfirst, hrest⟩ := List.forall_mem_cons.mp hkafka
    obtain ⟨hfails, hleaves⟩ := ih (op.execute world topics).state hrest
    refine ⟨List.forall_mem_cons.mpr ⟨?_, hfails⟩, fun topic => ?_⟩
    · cases hresult : (op.execute world topics).result with
      | error e => exact ⟨e, rfl⟩
      | ok ctx =>
        obtain ⟨cfg, hcfg, hctx⟩ := (returns_execute op world topics trivial).2 ctx hresult
        exact absurd (hfirst cfg hcfg) (InitOperator.readType_of_execute hctx)
    · obtain ⟨texts, htexts, hstate⟩ := exists_leaves op world topics topic
      obtain ⟨later, hlater, hlast⟩ := hleaves topic
      exact ⟨texts :: later, .cons htexts hlater, by
        rw [attempts, hlast, hstate, List.flatten_cons, List.append_assoc]⟩

end DemoInitOperator

/-- The demo operator with two records. -/
def demoOrders : DemoInitOperator where
  numRecords := 2
  demoRecords := none

/-- A broker that takes every record, for a pipeline that reads the orders topic. -/
def demoWorld : SeedWorld where
  load := .ok (ordersConfig "kafka" ordersTopic [])
  getSecret _ := .ok { bootstrapServers := some "broker:9092".toList }
  generated n := .dict [("order_id".toList, .int n)]
  create _ := .ok ()
  send _ := .ok ()
  flush := .ok ()
  close := .ok ()
  reload := .ok (ordersConfig "kafka" ordersTopic [])
  env := ordersEnv

/-- Its producer takes both records for the orders topic. -/
theorem produces_demoWorld :
    demoWorld.Produces (demoOrders.records demoWorld) "orders-events".toList where
  reads := by decide +kernel
  creates := ⟨_, rfl, rfl⟩
  sends _ _ := rfl
  serialized := ⟨_, .cons rfl (.cons rfl .nil)⟩

/-- A task that is run again has every order number twice in its topic. -/
theorem seeding_repeats_demoWorld :
    (∀ result ∈ (demoOrders.attempts (fun _ => []) [demoWorld, demoWorld]).1,
      ∃ e, result = .error e) ∧
    ∃ texts, Serialized (demoOrders.records demoWorld) texts ∧
      (demoOrders.attempts (fun _ => []) [demoWorld, demoWorld]).2 "orders-events".toList =
        texts ++ texts := by
  obtain ⟨hfails, hleaves⟩ := DemoInitOperator.seeding_repeats demoOrders (fun _ => [])
    [demoWorld, demoWorld] (by
      intro world hworld cfg hcfg
      obtain rfl : world = demoWorld := by simpa using hworld
      obtain rfl := Except.ok.inj hcfg
      rfl)
  refine ⟨hfails, ?_⟩
  obtain ⟨texts, hforall, hlast⟩ := hleaves "orders-events".toList
  have hall : ∀ {added : List Text},
      demoWorld.Leaves (demoOrders.records demoWorld) "orders-events".toList added →
        Serialized (demoOrders.records demoWorld) added := by
    rintro added ⟨sent, -, hserialized, -, hsent⟩
    rwa [hsent produces_demoWorld] at hserialized
  cases hforall with
  | @cons _ first _ _ hfirst hrest =>
    cases hrest with
    | @cons _ second _ _ hsecond hnone =>
      cases hnone
      have heq : second = first := List.right_unique_forall₂'
        (fun _ _ _ h h' => Except.ok.inj (h.symm.trans h')) (hall hsecond) (hall hfirst)
      refine ⟨first, hall hfirst, hlast.trans ?_⟩
      rw [heq]
      simp

end BatchIngestion
