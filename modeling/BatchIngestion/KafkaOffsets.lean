import BatchIngestion.Checkpoint
import BatchIngestion.Config
import BatchIngestion.Library.Fallible
import BatchIngestion.Python.JsonRoundTrip

/-!
# Kafka offset snapshots

`InitOperator._max_kafka` asks the broker for the end offsets of every partition
of the subscribed topics and returns them as a JSON text. The text names exactly
these partitions with their end offsets, and the type-guessing parser of
checkpoints leaves it alone.
-/

namespace BatchIngestion

open Python Library

/-- What the Kafka broker reports. -/
structure Broker where
  /-- `partitions_for_topic(topic)`, empty for an unknown topic. -/
  partitions : Text → List ℕ
  /-- The partitions form a set. -/
  partitions_nodup : ∀ topic, (partitions topic).Nodup
  /-- The end offset of a partition. -/
  endOffset : Text → ℕ → ℕ
  /-- Offsets are signed 64-bit numbers. -/
  endOffset_lt : ∀ topic partition', endOffset topic partition' < 2 ^ 63

/-- A topic and a partition number: `TopicPartition`. -/
abbrev TopicPartition := Text × ℕ

/-- An offset map: topic, partition as a text, offset. -/
abbrev OffsetMap := Dict Text (Dict Text ℤ)

/-- `[t.strip() for t in topic.split(",")]`. -/
def topicsOf (topic : Text) : List Text := (topic.splitOn ',').map strip

/-- The loop that collects the partitions of all topics. -/
def topicPartitions (broker : Broker) (topics : List Text) : List TopicPartition :=
  topics.flatMap fun topic =>
    ((broker.partitions topic).insertionSort (· ≤ ·)).map fun p => (topic, p)

/-- `consumer.end_offsets(tps)`. -/
def endOffsets (broker : Broker) (tps : List TopicPartition) : Dict TopicPartition ℤ :=
  tps.foldl (fun d tp => Dict.set d tp (broker.endOffset tp.1 tp.2 : ℤ)) []

/-- `offset_map.setdefault(tp.topic, {})[str(tp.partition)] = offset`. -/
def setOffset (offsetMap : OffsetMap) (tp : TopicPartition) (offset : ℤ) : OffsetMap :=
  Dict.set offsetMap tp.1
    (Dict.set ((Dict.get? offsetMap tp.1).getD []) (intText tp.2) offset)

/-- The loop that builds the offset map. -/
def offsetMapOf (offsets : Dict TopicPartition ℤ) : OffsetMap :=
  offsets.foldl (fun m item => setOffset m item.1 item.2) []

/-- `InitOperator._max_kafka`. -/
def maxKafka (topic : Text) (broker : Except PyExc Broker) : Except PyExc Text := do
  let broker ← broker
  let topics := topicsOf topic
  let tps := topicPartitions broker topics
  if tps = [] then
    .error (.runtimeError (("No partitions found for topics: " : Text) ++
      ['['] ++ (", ".toList).intercalate (topics.map fun t => '\'' :: (t ++ ['\''])) ++ [']']))
  else .ok (jsonDumps (offsetMapOf (endOffsets broker tps)))

/-- The offset that a map names for a partition. -/
def lookupOffset (m : OffsetMap) (topic : Text) (p : ℕ) : Option ℤ :=
  (Dict.get? m topic).bind fun inner => Dict.get? inner (intText p)

/-- The offset that a JSON offset text names for a partition: how Spark reads the
options `startingOffsets` and `endingOffsets`. -/
def sparkOffset (text topic : Text) (p : ℕ) : Option ℤ :=
  (jsonLoads text).bind fun m => lookupOffset m topic p

/-! ### The offset map -/

/-- Partition numbers have different texts. -/
theorem intText_natCast_inj {p q : ℕ} : intText p = intText q ↔ p = q := by
  constructor
  · intro h
    have hp := parseSigned_intText p
    rw [h, parseSigned_intText] at hp
    simpa using hp.symm
  · rintro rfl
    rfl

/-- One round of the loop names one partition. -/
theorem lookupOffset_setOffset (m : OffsetMap) (tp : TopicPartition) (offset : ℤ) (topic : Text)
    (p : ℕ) : lookupOffset (setOffset m tp offset) topic p =
      if tp = (topic, p) then some offset else lookupOffset m topic p := by
  obtain ⟨t, q⟩ := tp
  unfold lookupOffset setOffset
  by_cases ht : t = topic
  · subst ht
    by_cases hq : q = p
    · subst hq
      simp [Dict.get?_set]
    · have hne : intText q ≠ intText p := fun h => hq (intText_natCast_inj.mp h)
      cases hm : Dict.get? m t <;> simp [Dict.get?_set, hq, hne, Dict.get?]
  · simp [Dict.get?_set, ht]

/-- The loop over offsets that a function gives names exactly their partitions. -/
theorem lookupOffset_foldl {f : TopicPartition → ℤ} {offsets : Dict TopicPartition ℤ}
    (hf : ∀ item ∈ offsets, item.2 = f item.1) (m : OffsetMap) (topic : Text) (p : ℕ) :
    lookupOffset (offsets.foldl (fun m item => setOffset m item.1 item.2) m) topic p =
      if (topic, p) ∈ Dict.keys offsets then some (f (topic, p)) else lookupOffset m topic p := by
  induction offsets generalizing m with
  | nil => simp [Dict.keys]
  | cons item offsets ih =>
    obtain ⟨tp, offset⟩ := item
    obtain rfl : offset = f tp := hf _ List.mem_cons_self
    rw [List.foldl_cons, ih (fun item hi => hf item (List.mem_cons_of_mem _ hi)),
      lookupOffset_setOffset]
    by_cases htail : (topic, p) ∈ Dict.keys offsets
    · have hcons : (topic, p) ∈ Dict.keys ((tp, f tp) :: offsets) := List.mem_cons_of_mem _ htail
      rw [if_pos htail, if_pos hcons]
    · by_cases htp : tp = (topic, p)
      · subst htp
        have hcons : (topic, p) ∈ Dict.keys (((topic, p), f (topic, p)) :: offsets) :=
          List.mem_cons_self
        rw [if_neg htail, if_pos rfl, if_pos hcons]
      · have hcons : (topic, p) ∉ Dict.keys ((tp, f tp) :: offsets) := by
          simp only [Dict.keys, List.map_cons, List.mem_cons, not_or]
          exact ⟨Ne.symm htp, htail⟩
        rw [if_neg htail, if_neg htp, if_neg hcons]

/-- The end offsets are those of the requested partitions. -/
theorem endOffsets_spec (broker : Broker) (tps : List TopicPartition) :
    (∀ item ∈ endOffsets broker tps, item.2 = broker.endOffset item.1.1 item.1.2) ∧
      ∀ tp, tp ∈ Dict.keys (endOffsets broker tps) ↔ tp ∈ tps := by
  have general (d : Dict TopicPartition ℤ)
      (hd : ∀ item ∈ d, item.2 = broker.endOffset item.1.1 item.1.2) :
      let d' := tps.foldl (fun d tp => Dict.set d tp (broker.endOffset tp.1 tp.2 : ℤ)) d
      (∀ item ∈ d', item.2 = broker.endOffset item.1.1 item.1.2) ∧
        ∀ tp, tp ∈ Dict.keys d' ↔ tp ∈ Dict.keys d ∨ tp ∈ tps := by
    induction tps generalizing d with
    | nil => simpa using hd
    | cons tp tps ih =>
      obtain ⟨hvalues, hkeys⟩ := ih (Dict.set d tp (broker.endOffset tp.1 tp.2 : ℤ)) (by
        intro item hitem
        rcases Dict.mem_set hitem with rfl | hitem
        · rfl
        · exact hd item hitem)
      refine ⟨hvalues, fun other => ?_⟩
      rw [List.foldl_cons, hkeys, Dict.mem_keys_set, List.mem_cons]
      tauto
  simpa [endOffsets, Dict.keys] using general [] (by simp)

/-- The requested partitions are those of the topics. -/
theorem mem_topicPartitions {broker : Broker} {topics : List Text} {topic : Text} {p : ℕ} :
    (topic, p) ∈ topicPartitions broker topics ↔ topic ∈ topics ∧ p ∈ broker.partitions topic := by
  simp [topicPartitions, List.mem_insertionSort]

/-- The keys of a map and of its inner maps are distinct. -/
def DistinctKeys (m : OffsetMap) : Prop :=
  (Dict.keys m).Nodup ∧ ∀ item ∈ m, (Dict.keys item.2).Nodup

/-- One round of the loop keeps the keys distinct. -/
theorem distinctKeys_setOffset {m : OffsetMap} (hm : DistinctKeys m) (tp : TopicPartition)
    (offset : ℤ) : DistinctKeys (setOffset m tp offset) := by
  refine ⟨Dict.nodup_keys_set hm.1 _ _, fun item hitem => ?_⟩
  rcases Dict.mem_set hitem with rfl | hitem
  · refine Dict.nodup_keys_set ?_ _ _
    cases hget : Dict.get? m tp.1 with
    | none => simp [Dict.keys]
    | some inner => exact hm.2 _ (Dict.mem_of_get? hget)
  · exact hm.2 item hitem

/-- The offset map has distinct keys. -/
theorem distinctKeys_offsetMapOf (offsets : Dict TopicPartition ℤ) :
    DistinctKeys (offsetMapOf offsets) := by
  have general (m : OffsetMap) (hm : DistinctKeys m) :
      DistinctKeys (offsets.foldl (fun m item => setOffset m item.1 item.2) m) := by
    induction offsets generalizing m with
    | nil => exact hm
    | cons item offsets ih => exact ih _ (distinctKeys_setOffset hm _ _)
  exact general [] ⟨by simp [Dict.keys], by simp⟩

/-- Every name of a map is a topic and the text of a partition from a list. -/
def NamesAmong (tps : List TopicPartition) (m : OffsetMap) : Prop :=
  ∀ item ∈ m, ∀ entry ∈ item.2, ∃ tp ∈ tps, tp.1 = item.1 ∧ intText tp.2 = entry.1

/-- One round of the loop names a partition of the list. -/
theorem namesAmong_setOffset {tps : List TopicPartition} {m : OffsetMap} (hm : NamesAmong tps m)
    {tp : TopicPartition} (htp : tp ∈ tps) (offset : ℤ) :
    NamesAmong tps (setOffset m tp offset) := by
  intro item hitem entry hentry
  rcases Dict.mem_set hitem with rfl | hitem
  · rcases Dict.mem_set hentry with rfl | hentry
    · exact ⟨tp, htp, rfl, rfl⟩
    · cases hget : Dict.get? m tp.1 with
      | none => simp [hget] at hentry
      | some inner =>
        rw [hget, Option.getD_some] at hentry
        exact hm _ (Dict.mem_of_get? hget) entry hentry
  · exact hm item hitem entry hentry

/-- The offset map names only requested partitions. -/
theorem namesAmong_offsetMapOf {tps : List TopicPartition} {offsets : Dict TopicPartition ℤ}
    (h : ∀ tp ∈ Dict.keys offsets, tp ∈ tps) : NamesAmong tps (offsetMapOf offsets) := by
  have general (m : OffsetMap) (hm : NamesAmong tps m) :
      NamesAmong tps (offsets.foldl (fun m item => setOffset m item.1 item.2) m) := by
    induction offsets generalizing m with
    | nil => exact hm
    | cons item offsets ih =>
      have htail : ∀ tp ∈ Dict.keys offsets, tp ∈ tps :=
        fun tp htp => h tp (List.mem_cons_of_mem _ htp)
      exact ih htail _ (namesAmong_setOffset hm (h item.1 List.mem_cons_self) _)
  exact general [] (by simp [NamesAmong])

/-! ### The JSON text -/

/-- Spark reads from the JSON text of a map what the map names. -/
theorem sparkOffset_jsonDumps {m : OffsetMap} (hm : DistinctKeys m) (topic : Text) (p : ℕ) :
    sparkOffset (jsonDumps m) topic p = lookupOffset m topic p := by
  rw [sparkOffset, jsonLoads_jsonDumps, Option.bind_some, lookupOffset, Dict.get?_map,
    Dict.get?_sortKeys hm.1, lookupOffset]
  cases hget : Dict.get? m topic with
  | none => rfl
  | some inner => exact Dict.get?_sortKeys (hm.2 _ (Dict.mem_of_get? hget)) _

/-- The JSON text of a map stands in braces. -/
theorem jsonDumps_braces (m : OffsetMap) : ∃ t, jsonDumps m = '{' :: (t ++ ['}']) := by
  have hmembers (d : OffsetMap) : ∃ t, jsonMembers (jsonObject intText) d = t ++ ['}'] := by
    induction d with
    | nil => exact ⟨[], rfl⟩
    | cons item d ih =>
      obtain ⟨k, v⟩ := item
      obtain ⟨t, ht⟩ := ih
      cases d with
      | nil => exact ⟨jsonString k ++ (':' :: ' ' :: jsonObject intText v), by simp [jsonMembers]⟩
      | cons item' d =>
        refine ⟨jsonString k ++ (':' :: ' ' :: (jsonObject intText v ++ (',' :: ' ' :: t))), ?_⟩
        rw [jsonMembers, ht]
        · simp
        · simp
  obtain ⟨t, ht⟩ := hmembers (Dict.sortKeys m)
  exact ⟨t, congrArg ('{' :: ·) ht⟩

/-- A snapshot is the JSON text of the offset map of the partitions of the topics. -/
theorem maxKafka_eq_ok {config text : Text} {broker : Broker}
    (h : maxKafka config (.ok broker) = .ok text) :
    jsonDumps (offsetMapOf (endOffsets broker (topicPartitions broker (topicsOf config)))) =
      text := by
  simp only [maxKafka, ok_bind] at h
  split at h
  · simp at h
  · exact Except.ok.inj h

/-- **The snapshot names every partition of the topics with its end offset**, and no
other partition. -/
theorem sparkOffset_maxKafka {config text : Text} {broker : Broker}
    (h : maxKafka config (.ok broker) = .ok text) (topic : Text) (p : ℕ) :
    sparkOffset text topic p =
      if topic ∈ topicsOf config ∧ p ∈ broker.partitions topic then
        some (broker.endOffset topic p : ℤ) else none := by
  obtain ⟨hvalues, hkeys⟩ := endOffsets_spec broker (topicPartitions broker (topicsOf config))
  rw [← maxKafka_eq_ok h, sparkOffset_jsonDumps (distinctKeys_offsetMapOf _), offsetMapOf,
    lookupOffset_foldl (f := fun tp => (broker.endOffset tp.1 tp.2 : ℤ)) hvalues]
  simp only [hkeys, mem_topicPartitions]
  rfl

/-- Every name in a snapshot is that of a partition of the topics. -/
theorem namesAmong_maxKafka {config text : Text} {broker : Broker}
    (h : maxKafka config (.ok broker) = .ok text) :
    ∃ m, jsonLoads text = some m ∧ NamesAmong (topicPartitions broker (topicsOf config)) m := by
  obtain ⟨-, hkeys⟩ := endOffsets_spec broker (topicPartitions broker (topicsOf config))
  have hnames := namesAmong_offsetMapOf fun tp htp => (hkeys tp).mp htp
  refine ⟨_, maxKafka_eq_ok h ▸ jsonLoads_jsonDumps _, fun item hitem entry hentry => ?_⟩
  obtain ⟨⟨topic, inner⟩, hmem, rfl⟩ := List.mem_map.mp hitem
  have hsorted := (Dict.perm_sortKeys _).mem_iff.mp hmem
  exact hnames _ hsorted entry ((Dict.perm_sortKeys inner).mem_iff.mp hentry)

/-- The checkpoint parser leaves a snapshot alone. -/
theorem parseText_maxKafka {config text : Text} {broker : Except PyExc Broker}
    (h : maxKafka config broker = .ok text) : parseText text = .str text := by
  obtain ⟨broker, -, h⟩ := bind_eq_ok_iff.mp h
  dsimp only at h
  split at h
  · simp at h
  · obtain ⟨t, ht⟩ := jsonDumps_braces (offsetMapOf (endOffsets broker (topicPartitions broker
      (topicsOf config))))
    obtain rfl := Except.ok.inj h
    rw [ht]
    exact parseText_braces t

end BatchIngestion
