import BatchIngestion.Pipeline
import Mathlib.Data.List.Dedup

/-!
# Kafka sources

`SourceKafkaAdapter.read` passes the two checkpoints of a run to Spark as the texts
of the options `startingOffsets` and `endingOffsets`. Spark accepts a JSON offset map
only if it names every partition of the subscribed topics and no other one, and reads
the messages of each partition from one offset up to the other.
-/

namespace BatchIngestion

open Python Library

/-! ### The options -/

/-- An offset option of the reader: a read option of the configuration replaces what the
adapter passes. -/
def offsetOption (cfg : KafkaSourceConfig) (name value : Text) : Except PyExc Text :=
  match cfg.readOption name with
  | some (.str text) => .ok text
  | some _ => .error (.external "Expected an offset map")
  | none => .ok value

/-- The options `startingOffsets` and `endingOffsets` of `SourceKafkaAdapter.read`. -/
def offsetOptions (cfg : KafkaSourceConfig) (checkpointFrom checkpointTo : Option CheckpointValue) :
    Except PyExc (Text × Text) := do
  let starting ← checkpointFrom.elim (.ok cfg.startingOffsets) CheckpointValue.format
  let ending ← checkpointTo.elim (.ok ("latest" : Text)) CheckpointValue.format
  let starting ← offsetOption cfg "startingOffsets" starting
  let ending ← offsetOption cfg "endingOffsets" ending
  return (starting, ending)

/-! ### Spark -/

/-- The messages of a partition from one offset up to another. -/
structure OffsetRange where
  /-- The topic. -/
  topic : Text
  /-- The partition. -/
  partition : ℕ
  /-- The first offset. -/
  fromOffset : ℤ
  /-- The offset after the last one. -/
  untilOffset : ℤ
  deriving DecidableEq

/-- An option is a keyword, in any case. -/
def isKeyword (option keyword : Text) : Bool := (strip option).map Char.toLower = keyword

/-- Where a read of a partition starts. The offset -2 stands for `earliest`, and nothing
that has been truncated is left out. -/
def startOffset (option : Text) (tp : TopicPartition) : Option ℤ :=
  if isKeyword option "earliest" then some 0
  else (sparkOffset option tp.1 tp.2).bind fun offset =>
    if offset = -2 then some 0 else if offset = -1 then none else some offset

/-- Where a read of a partition stops. The offset -1 stands for `latest`. -/
def stopOffset (broker : Broker) (option : Text) (tp : TopicPartition) : Option ℤ :=
  if isKeyword option "latest" then some (broker.endOffset tp.1 tp.2)
  else (sparkOffset option tp.1 tp.2).bind fun offset =>
    if offset = -1 then some (broker.endOffset tp.1 tp.2)
    else if offset = -2 then none else some offset

/-- A JSON offset map names no partition beyond a list. -/
def namesOnly (option : Text) (tps : List TopicPartition) : Bool :=
  (jsonLoads option).all fun m => m.all fun item => item.2.all fun entry =>
    tps.any fun tp => tp.1 = item.1 && intText tp.2 = entry.1

/-- The partitions of the subscribed topics. -/
def KafkaSourceConfig.subscribed (cfg : KafkaSourceConfig) (broker : Broker) :
    List TopicPartition :=
  (topicPartitions broker (topicsOf cfg.topic)).dedup

/-- The messages of a partition that Spark reads between two options. -/
def offsetRange (broker : Broker) (starting ending : Text) (tp : TopicPartition) :
    Option OffsetRange := do
  let fromOffset ← startOffset starting tp
  let untilOffset ← stopOffset broker ending tp
  return ⟨tp.1, tp.2, fromOffset, untilOffset⟩

/-- The messages that Spark reads between two options. -/
def offsetRanges (broker : Broker) (starting ending : Text) (tps : List TopicPartition) :
    Except PyExc (List OffsetRange) :=
  match tps.mapM (offsetRange broker starting ending) with
  | some ranges =>
    if namesOnly starting tps && namesOnly ending tps then .ok ranges
    else .error (.external "you must specify all TopicPartitions")
  | none => .error (.external "you must specify all TopicPartitions")

/-- The DataFrame of `SourceKafkaAdapter.read`, evaluated on a broker. -/
def kafkaRead (cfg : KafkaSourceConfig) (broker : Broker)
    (checkpointFrom checkpointTo : Option CheckpointValue) : Except PyExc (List OffsetRange) := do
  let (starting, ending) ← offsetOptions cfg checkpointFrom checkpointTo
  offsetRanges broker starting ending (cfg.subscribed broker)

/-- A Kafka source. -/
def kafkaSource (cfg : KafkaSourceConfig) (countRecords : Bool) :
    Source Broker (List OffsetRange) where
  readType := .kafka
  config := .kafka cfg
  countRecords := countRecords
  native broker := { Native.down with broker := .ok broker }
  read := kafkaRead cfg
  copied _ := []
  size ranges := (ranges.map fun range => (range.untilOffset - range.fromOffset).toNat).sum

/-! ### Snapshots as options -/

/-- The read options set neither of the two offset options. -/
def KafkaSourceConfig.LeavesOffsets (cfg : KafkaSourceConfig) : Prop :=
  ∀ option ∈ cfg.readOptions, option.1.map Char.toLower ≠ ("startingoffsets" : Text) ∧
    option.1.map Char.toLower ≠ ("endingoffsets" : Text)

/-- A value is the snapshot of the topics of a source at a broker. -/
def Snapshot (cfg : KafkaSourceConfig) (broker : Broker) (v : CheckpointValue) : Prop :=
  ∃ text, v = .str text ∧ maxKafka cfg.topic (.ok broker) = .ok text

/-- The offset that a checkpoint names for a partition. -/
def CheckpointValue.offset : CheckpointValue → TopicPartition → Option ℤ
  | .str text, tp => sparkOffset text tp.1 tp.2
  | .int _, _ | .datetime _, _ => none

/-- The partitions that a JSON offset text names. -/
def namedBy (text : Text) : Set TopicPartition := {tp | (sparkOffset text tp.1 tp.2).isSome}

variable {cfg : KafkaSourceConfig} {broker b₀ b₁ : Broker} {v w : CheckpointValue}

/-- The options are the texts of the checkpoints. -/
theorem KafkaSourceConfig.LeavesOffsets.offsetOptions_eq (h : cfg.LeavesOffsets)
    {f t : Option CheckpointValue} {starting ending : Text}
    (hf : f.elim (.ok cfg.startingOffsets) CheckpointValue.format = .ok starting)
    (ht : t.elim (.ok ("latest" : Text)) CheckpointValue.format = .ok ending) :
    offsetOptions cfg f t = .ok (starting, ending) := by
  have hstarting : cfg.readOption "startingOffsets" = none :=
    SourceConfigBase.readOption_eq_none fun option ho => (h option ho).1
  have hending : cfg.readOption "endingOffsets" = none :=
    SourceConfigBase.readOption_eq_none fun option ho => (h option ho).2
  simp only [offsetOptions, hf, ht, offsetOption, hstarting, hending, ok_bind, pure_eq_ok]

/-- A partition is subscribed when it belongs to a topic of the configuration. -/
theorem mem_subscribed {tp : TopicPartition} :
    tp ∈ cfg.subscribed broker ↔ tp.1 ∈ topicsOf cfg.topic ∧ tp.2 ∈ broker.partitions tp.1 := by
  rw [KafkaSourceConfig.subscribed, List.mem_dedup]
  exact mem_topicPartitions

/-- The `checkpoint_to` of a Kafka source is a snapshot of its broker. -/
theorem snapshot_of_fetchCheckpointTo {countRecords : Bool}
    (h : InitOperator.fetchCheckpointTo .kafka (.kafka cfg)
      ((kafkaSource cfg countRecords).native broker) = some v) : Snapshot cfg broker v := by
  simp only [InitOperator.fetchCheckpointTo, kafkaSource, if_true] at h
  cases hmax : maxKafka cfg.topic (.ok broker) with
  | error e => simp [hmax, Except.map, InitOperator.swallow] at h
  | ok text =>
    rw [hmax] at h
    exact ⟨text, (Option.some.inj h).symm, hmax⟩

/-- A snapshot names the subscribed partitions with their end offsets. -/
theorem Snapshot.offset_eq (h : Snapshot cfg broker v) (tp : TopicPartition) :
    v.offset tp =
      if tp ∈ cfg.subscribed broker then some (broker.endOffset tp.1 tp.2 : ℤ) else none := by
  obtain ⟨text, rfl, hmax⟩ := h
  simp only [CheckpointValue.offset, sparkOffset_maxKafka hmax, mem_subscribed]

/-- A snapshot names exactly the subscribed partitions. -/
theorem namedBy_maxKafka {text : Text} (h : maxKafka cfg.topic (.ok broker) = .ok text) :
    namedBy text = {tp | tp ∈ cfg.subscribed broker} := by
  ext tp
  rw [namedBy, Set.mem_ofPred_eq, Set.mem_ofPred_eq, sparkOffset_maxKafka h, mem_subscribed]
  split <;> simp_all

/-- A text in braces is no keyword. -/
theorem isKeyword_braces (t : Text) {keyword : Text} (hkeyword : keyword.head? ≠ some '{') :
    isKeyword ('{' :: (t ++ ['}'])) keyword = false := by
  rw [isKeyword, strip_braces, decide_eq_false_iff_not]
  rintro rfl
  exact hkeyword rfl

/-- A snapshot is no keyword. -/
theorem isKeyword_maxKafka {config text : Text} (h : maxKafka config (.ok broker) = .ok text)
    {keyword : Text} (hkeyword : keyword.head? ≠ some '{') : isKeyword text keyword = false := by
  obtain ⟨t, ht⟩ := jsonDumps_braces
    (offsetMapOf (endOffsets broker (topicPartitions broker (topicsOf config))))
  rw [← maxKafka_eq_ok h, ht]
  exact isKeyword_braces t hkeyword

/-! ### What Spark reads -/

/-- Without a checkpoint a read starts at the beginning. -/
theorem startOffset_earliest (tp : TopicPartition) : startOffset "earliest" tp = some 0 :=
  if_pos (by decide +kernel)

/-- A read starts at the offset that a snapshot names. -/
theorem startOffset_maxKafka {config text : Text} (h : maxKafka config (.ok broker) = .ok text)
    (tp : TopicPartition) : startOffset text tp = sparkOffset text tp.1 tp.2 := by
  have hkeyword : isKeyword text "earliest" = false := isKeyword_maxKafka h (by decide +kernel)
  rw [startOffset, hkeyword, if_neg Bool.false_ne_true, sparkOffset_maxKafka h]
  split
  · rw [Option.bind_some, if_neg (by omega), if_neg (by omega)]
  · rfl

/-- A read stops at the offset that a snapshot names. -/
theorem stopOffset_maxKafka {config text : Text} (h : maxKafka config (.ok b₁) = .ok text)
    (tp : TopicPartition) : stopOffset broker text tp = sparkOffset text tp.1 tp.2 := by
  have hkeyword : isKeyword text "latest" = false := isKeyword_maxKafka h (by decide +kernel)
  rw [stopOffset, hkeyword, if_neg Bool.false_ne_true, sparkOffset_maxKafka h]
  split
  · rw [Option.bind_some, if_neg (by omega), if_neg (by omega)]
  · rfl

/-- What a text names belongs to the only partitions that it names. -/
theorem mem_of_namesOnly {option : Text} {tps : List TopicPartition}
    (h : namesOnly option tps = true) {tp : TopicPartition}
    (htp : (sparkOffset option tp.1 tp.2).isSome) : tp ∈ tps := by
  obtain ⟨offset, hoffset⟩ := Option.isSome_iff_exists.mp htp
  obtain ⟨m, hm, hlookup⟩ := Option.bind_eq_some_iff.mp hoffset
  obtain ⟨inner, hinner, hentry⟩ := Option.bind_eq_some_iff.mp hlookup
  simp only [namesOnly, hm, Option.all_some, List.all_eq_true, List.any_eq_true, Bool.and_eq_true,
    decide_eq_true_eq] at h
  obtain ⟨⟨topic, p⟩, hmem, rfl, hp⟩ := h _ (Dict.mem_of_get? hinner) _ (Dict.mem_of_get? hentry)
  obtain rfl := intText_natCast_inj.mp hp
  exact hmem

/-- A snapshot names only partitions that a list contains, if it contains them all. -/
theorem namesOnly_maxKafka {config text : Text} (h : maxKafka config (.ok broker) = .ok text)
    {tps : List TopicPartition}
    (htps : ∀ tp ∈ topicPartitions broker (topicsOf config), tp ∈ tps) :
    namesOnly text tps = true := by
  obtain ⟨m, hm, hnames⟩ := namesAmong_maxKafka h
  simp only [namesOnly, hm, Option.all_some, List.all_eq_true, List.any_eq_true, Bool.and_eq_true,
    decide_eq_true_eq]
  intro item hitem entry hentry
  obtain ⟨tp, htp, htopic, hp⟩ := hnames item hitem entry hentry
  exact ⟨tp, htps tp htp, htopic, hp⟩

/-- Spark accepts two options that name all partitions and no other one. -/
theorem exists_offsetRanges_iff {starting ending : Text} {tps : List TopicPartition} :
    (∃ ranges, offsetRanges broker starting ending tps = .ok ranges) ↔
      (∀ tp ∈ tps, (startOffset starting tp).isSome ∧ (stopOffset broker ending tp).isSome) ∧
        namesOnly starting tps = true ∧ namesOnly ending tps = true := by
  have hround (tp : TopicPartition) : (offsetRange broker starting ending tp).isSome ↔
      (startOffset starting tp).isSome ∧ (stopOffset broker ending tp).isSome := by
    unfold offsetRange
    cases startOffset starting tp <;> cases stopOffset broker ending tp <;> simp
  simp only [← hround, ← isSome_mapM_iff, ← Bool.and_eq_true]
  unfold offsetRanges
  cases tps.mapM (offsetRange broker starting ending) with
  | none => simp
  | some ranges => cases namesOnly starting tps && namesOnly ending tps <;> simp

/-- The ranges of a read are those between its two options, one for each partition. -/
theorem mem_offsetRanges {starting ending : Text} {tps : List TopicPartition}
    {ranges : List OffsetRange} (h : offsetRanges broker starting ending tps = .ok ranges)
    {range : OffsetRange} : range ∈ ranges ↔ (range.topic, range.partition) ∈ tps ∧
      startOffset starting (range.topic, range.partition) = some range.fromOffset ∧
      stopOffset broker ending (range.topic, range.partition) = some range.untilOffset := by
  unfold offsetRanges at h
  split at h
  · rename_i ranges' hranges
    split at h
    · obtain rfl := Except.ok.inj h
      rw [mem_of_mapM_eq_some hranges]
      constructor
      · rintro ⟨⟨topic, p⟩, htp, hround⟩
        obtain ⟨fromOffset, hfrom, hround⟩ := Option.bind_eq_some_iff.mp hround
        obtain ⟨untilOffset, huntil, hround⟩ := Option.bind_eq_some_iff.mp hround
        obtain rfl := Option.some.inj hround
        exact ⟨htp, hfrom, huntil⟩
      · rintro ⟨htp, hfrom, huntil⟩
        exact ⟨_, htp, by simp [offsetRange, hfrom, huntil]⟩
    · simp at h
  · simp at h

/-- **Spark accepts two snapshots if and only if both name exactly the partitions that are
subscribed when it reads.** -/
theorem exists_kafkaRead_iff (hcfg : cfg.LeavesOffsets) {starting ending : Text}
    (hstarting : maxKafka cfg.topic (.ok b₀) = .ok starting)
    (hending : maxKafka cfg.topic (.ok b₁) = .ok ending) :
    (∃ ranges, kafkaRead cfg broker (some (.str starting)) (some (.str ending)) = .ok ranges) ↔
      namedBy starting = {tp | tp ∈ cfg.subscribed broker} ∧
        namedBy ending = {tp | tp ∈ cfg.subscribed broker} := by
  have hread : kafkaRead cfg broker (some (.str starting)) (some (.str ending)) =
      offsetRanges broker starting ending (cfg.subscribed broker) := by
    rw [kafkaRead, hcfg.offsetOptions_eq rfl rfl, ok_bind]
  have hnamed {b : Broker} {text : Text} (hmax : maxKafka cfg.topic (.ok b) = .ok text) :
      namedBy text = {tp | tp ∈ cfg.subscribed broker} ↔
        (∀ tp ∈ cfg.subscribed broker, (sparkOffset text tp.1 tp.2).isSome) ∧
          namesOnly text (cfg.subscribed broker) = true := by
    constructor
    · intro heq
      have hmem (tp : TopicPartition) :
          (sparkOffset text tp.1 tp.2).isSome ↔ tp ∈ cfg.subscribed broker := Set.ext_iff.mp heq tp
      refine ⟨fun tp htp => (hmem tp).mpr htp, namesOnly_maxKafka hmax fun tp htp => ?_⟩
      rw [← hmem, sparkOffset_maxKafka hmax, if_pos (mem_topicPartitions.mp htp)]
      rfl
    · rintro ⟨hall, honly⟩
      ext tp
      exact ⟨fun htp => mem_of_namesOnly honly htp, fun htp => hall tp htp⟩
  rw [hread, exists_offsetRanges_iff, hnamed hstarting, hnamed hending]
  simp only [startOffset_maxKafka hstarting, stopOffset_maxKafka hending]
  constructor
  · rintro ⟨hall, hnames⟩
    exact ⟨⟨fun tp htp => (hall tp htp).1, hnames.1⟩, fun tp htp => (hall tp htp).2, hnames.2⟩
  · rintro ⟨⟨hstart, hnames⟩, hstop, hnames'⟩
    exact ⟨fun tp htp => ⟨hstart tp htp, hstop tp htp⟩, hnames, hnames'⟩

/-- Where a run that starts from an optional checkpoint starts to read a partition: at the
offset that the checkpoint names, without one at the beginning. -/
def startOf (checkpointFrom : Option CheckpointValue) (tp : TopicPartition) : Option ℤ :=
  checkpointFrom.elim (some 0) fun v => v.offset tp

/-- **A read between two snapshots gives each subscribed partition from one up to the other.**
The first read starts at the beginning. -/
theorem mem_kafkaRead (hcfg : cfg.LeavesOffsets)
    (hearliest : cfg.startingOffsets = "earliest".toList)
    {f : Option CheckpointValue} (hf : ∀ v, f = some v → ∃ b₀, Snapshot cfg b₀ v)
    (hw : Snapshot cfg b₁ w) {ranges : List OffsetRange}
    (h : kafkaRead cfg broker f (some w) = .ok ranges) {range : OffsetRange} :
    range ∈ ranges ↔ (range.topic, range.partition) ∈ cfg.subscribed broker ∧
      startOf f (range.topic, range.partition) = some range.fromOffset ∧
      w.offset (range.topic, range.partition) = some range.untilOffset := by
  obtain ⟨ending, rfl, hending⟩ := hw
  have hranges {starting : Text}
      (hstarting : f.elim (.ok cfg.startingOffsets) CheckpointValue.format = .ok starting) :
      offsetRanges broker starting ending (cfg.subscribed broker) = .ok ranges := by
    rw [kafkaRead, hcfg.offsetOptions_eq hstarting rfl, ok_bind] at h
    exact h
  cases f with
  | none =>
    rw [mem_offsetRanges (hranges rfl), stopOffset_maxKafka hending, hearliest,
      startOffset_earliest]
    rfl
  | some v =>
    obtain ⟨b₀, starting, rfl, hstarting⟩ := hf v rfl
    rw [mem_offsetRanges (hranges rfl), stopOffset_maxKafka hending, startOffset_maxKafka hstarting]
    rfl

/-! ### Changes of the broker -/

/-- The subscribed partitions may only grow. -/
def KafkaSourceConfig.Grows (cfg : KafkaSourceConfig) (old next : Broker) : Prop :=
  ∀ tp ∈ cfg.subscribed old, tp ∈ cfg.subscribed next

instance (cfg : KafkaSourceConfig) (old next : Broker) : Decidable (cfg.Grows old next) :=
  inferInstanceAs (Decidable (∀ tp ∈ cfg.subscribed old, tp ∈ cfg.subscribed next))

/-- The subscribed partitions stay, and messages are appended to them. -/
def KafkaSourceConfig.Appends (cfg : KafkaSourceConfig) (old next : Broker) : Prop :=
  cfg.Grows old next ∧ cfg.Grows next old ∧
    ∀ tp ∈ cfg.subscribed old, old.endOffset tp.1 tp.2 ≤ next.endOffset tp.1 tp.2

instance (cfg : KafkaSourceConfig) (old next : Broker) : Decidable (cfg.Appends old next) :=
  inferInstanceAs (Decidable (_ ∧ _ ∧ ∀ tp ∈ cfg.subscribed old, _ ≤ _))

/-- Partitions stay when nothing changes. -/
theorem KafkaSourceConfig.Grows.refl (cfg : KafkaSourceConfig) (b : Broker) : cfg.Grows b b :=
  fun _ htp => htp

/-- Growth composes. -/
theorem KafkaSourceConfig.Grows.trans (h : cfg.Grows b₀ b₁) (h' : cfg.Grows b₁ broker) :
    cfg.Grows b₀ broker :=
  fun tp htp => h' tp (h tp htp)

/-- Nothing is appended when nothing changes. -/
theorem KafkaSourceConfig.Appends.refl (cfg : KafkaSourceConfig) (b : Broker) : cfg.Appends b b :=
  ⟨.refl cfg b, .refl cfg b, fun _ _ => le_rfl⟩

/-- Appending composes. -/
theorem KafkaSourceConfig.Appends.trans (h : cfg.Appends b₀ b₁) (h' : cfg.Appends b₁ broker) :
    cfg.Appends b₀ broker :=
  ⟨h.1.trans h'.1, h'.2.1.trans h.2.1, fun tp htp => (h.2.2 tp htp).trans (h'.2.2 tp (h.1 tp htp))⟩

/-- The subscribed partitions stay when messages are appended. -/
theorem KafkaSourceConfig.Appends.subscribed_iff (h : cfg.Appends b₀ b₁) {tp : TopicPartition} :
    tp ∈ cfg.subscribed b₀ ↔ tp ∈ cfg.subscribed b₁ :=
  ⟨h.1 tp, h.2.1 tp⟩

/-! ### An example source -/

/-- A topic that is read from its beginning. -/
def ordersEvents : KafkaSourceConfig where
  credentialRef := "kafka".toList
  extra := []
  readOptions := []
  bootstrapServers := "broker:9092".toList
  topic := "orders-events".toList
  groupId := []
  startingOffsets := "earliest".toList
  valueFormat := "json".toList

/-- The configuration sets no offset options. -/
theorem leavesOffsets_ordersEvents : ordersEvents.LeavesOffsets :=
  fun _ ho => absurd ho List.not_mem_nil

/-- A broker with a number of partitions of the topic and a number of messages in each. -/
def Broker.withPartitions (count messages : ℕ) : Broker where
  partitions topic := if topic = "orders-events".toList then List.range count else []
  partitions_nodup topic := by
    split
    · exact List.nodup_range
    · exact List.nodup_nil
  endOffset _ _ := min messages (2 ^ 63 - 1)
  endOffset_lt _ _ := by omega

end BatchIngestion
