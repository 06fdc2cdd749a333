import BatchIngestion.PartitionGrowth
import BatchIngestion.Progress

/-!
# Overlapping Kafka runs skip no message

When the runs of a Kafka DAG overlap, the windows that they read may overlap too, and the
stored offsets may go back. What is stored is still safe to resume from: every message
below a stored offset has landed, and so has every message below an offset that a run in
flight resumes from. Partitions may be added at any time. A run that misses one does not
read, since Spark rejects its offsets.
-/

namespace BatchIngestion

open Python Library

variable {ι : Type} {cfg : KafkaSourceConfig} {countRecords : Bool}
  {log : List (ι × Action Broker (List OffsetRange))} {tp : TopicPartition} {v w : CheckpointValue}

/-! ### Accepted reads -/

section Reads

variable {broker b₀ b₁ : Broker} {f : Option CheckpointValue} {ranges : List OffsetRange}

/-- An accepted read names each partition of its end in its start, too. -/
theorem exists_startOf_of_kafkaRead (hcfg : cfg.LeavesOffsets)
    (hf : ∀ v, f = some v → ∃ b₀, Snapshot cfg b₀ v) (hw : Snapshot cfg b₁ w)
    (h : kafkaRead cfg broker f (some w) = .ok ranges) {stop : ℤ}
    (hstop : w.offset tp = some stop) :
    tp ∈ cfg.subscribed broker ∧ ∃ start, startOf f tp = some start := by
  obtain ⟨ending, rfl, hending⟩ := hw
  have hnamed : (sparkOffset ending tp.1 tp.2).isSome := by
    have hoffset : sparkOffset ending tp.1 tp.2 = some stop := hstop
    simp [hoffset]
  cases f with
  | none =>
    have hranges : offsetRanges broker cfg.startingOffsets ending (cfg.subscribed broker) =
        .ok ranges := by
      rw [kafkaRead, hcfg.offsetOptions_eq rfl rfl, ok_bind] at h
      exact h
    have honly := (exists_offsetRanges_iff.mp ⟨ranges, hranges⟩).2.2
    exact ⟨mem_of_namesOnly honly hnamed, 0, rfl⟩
  | some v =>
    obtain ⟨b₀, starting, rfl, hstarting⟩ := hf v rfl
    obtain ⟨hstart, hend⟩ := (exists_kafkaRead_iff hcfg hstarting hending).mp ⟨ranges, h⟩
    have htp : tp ∈ cfg.subscribed broker := (Set.ext_iff.mp hend tp).mp hnamed
    exact ⟨htp, Option.isSome_iff_exists.mp ((Set.ext_iff.mp hstart tp).mpr htp)⟩

/-- The messages of a partition in a batch. -/
def offsetsIn (ranges : List OffsetRange) (tp : TopicPartition) : Set ℤ :=
  {o | ∃ range ∈ ranges, (range.topic, range.partition) = tp ∧ range.fromOffset ≤ o ∧
    o < range.untilOffset}

/-- An accepted read gives every message of a partition from its start up to its end. -/
theorem mem_offsetsIn_of_kafkaRead (hcfg : cfg.LeavesOffsets)
    (hearliest : cfg.startingOffsets = "earliest".toList)
    (hf : ∀ v, f = some v → ∃ b₀, Snapshot cfg b₀ v) (hw : Snapshot cfg b₁ w)
    (h : kafkaRead cfg broker f (some w) = .ok ranges) {start stop o : ℤ}
    (hstart : startOf f tp = some start) (hstop : w.offset tp = some stop) (hle : start ≤ o)
    (hlt : o < stop) : o ∈ offsetsIn ranges tp := by
  obtain ⟨htp, -⟩ := exists_startOf_of_kafkaRead hcfg hf hw h hstop
  have hmem : (⟨tp.1, tp.2, start, stop⟩ : OffsetRange) ∈ ranges :=
    (mem_kafkaRead hcfg hearliest hf hw h).mpr ⟨htp, hstart, hstop⟩
  exact ⟨_, hmem, rfl, hle, hlt⟩

end Reads

/-! ### What has landed -/

/-- The messages of a partition that have landed. -/
def landedOffsets (log : List (ι × Action Broker (List OffsetRange))) (tp : TopicPartition) :
    Set ℤ :=
  {o | ∃ i b, Landed log i b ∧ o ∈ offsetsIn b tp}

/-- All messages of a set below the offsets that a checkpoint names. -/
def CheckpointValue.Below (v : CheckpointValue) (offsets : TopicPartition → Set ℤ) : Prop :=
  ∀ tp stop, v.offset tp = some stop → ∀ o, 0 ≤ o → o < stop → o ∈ offsets tp

/-- A message stays landed. -/
theorem landedOffsets_cons (i : ι) (a : Action Broker (List OffsetRange)) (tp : TopicPartition) :
    landedOffsets log tp ⊆ landedOffsets ((i, a) :: log) tp := by
  rintro o ⟨j, b, hlanded, ho⟩
  exact ⟨j, b, landed_cons.mpr (.inr hlanded), ho⟩

/-- More messages lie below the same offsets. -/
theorem CheckpointValue.Below.mono {offsets offsets' : TopicPartition → Set ℤ}
    (h : v.Below offsets) (hsub : ∀ tp, offsets tp ⊆ offsets' tp) : v.Below offsets' :=
  fun tp stop hstop o hnonneg hlt => hsub tp (h tp stop hstop o hnonneg hlt)

/-- A snapshot below which everything has landed. -/
def SafeToResume (cfg : KafkaSourceConfig) (log : List (ι × Action Broker (List OffsetRange)))
    (v : CheckpointValue) : Prop :=
  (∃ b, Snapshot cfg b v) ∧ v.Below (landedOffsets log)

/-- A snapshot stays safe to resume from. -/
theorem SafeToResume.cons (h : SafeToResume cfg log v) (i : ι)
    (a : Action Broker (List OffsetRange)) : SafeToResume cfg ((i, a) :: log) v :=
  ⟨h.1, h.2.mono (landedOffsets_cons i a)⟩

/-- Reading on from a safe start leaves nothing out below the end. -/
theorem below_of_kafkaRead (hcfg : cfg.LeavesOffsets)
    (hearliest : cfg.startingOffsets = "earliest".toList) {broker b₁ : Broker}
    {f : Option CheckpointValue} {b : List OffsetRange}
    (hf : ∀ v, f = some v → SafeToResume cfg log v) (hw : Snapshot cfg b₁ w)
    (h : kafkaRead cfg broker f (some w) = .ok b) :
    w.Below fun tp => landedOffsets log tp ∪ offsetsIn b tp := by
  intro tp stop hstop o hnonneg hlt
  have hsnapshot : ∀ v, f = some v → ∃ b₀, Snapshot cfg b₀ v := fun v hv => (hf v hv).1
  obtain ⟨-, start, hstart⟩ := exists_startOf_of_kafkaRead hcfg hsnapshot hw h hstop
  rcases le_or_gt start o with hle | hbefore
  · exact .inr (mem_offsetsIn_of_kafkaRead hcfg hearliest hsnapshot hw h hstart hstop hle hlt)
  · -- the run starts behind the message, so it has landed before
    cases f with
    | none =>
      obtain rfl : (0 : ℤ) = start := Option.some.inj hstart
      omega
    | some v => exact .inl ((hf v rfl).2 tp start hstart o hnonneg hbefore)

/-! ### The invariant -/

section Overlap

variable [DecidableEq ι]

/-- What the sink, the store and the runs in flight have to do with each other. -/
structure NoGap (cfg : KafkaSourceConfig) (sys : System ι Broker (List OffsetRange))
    (initial : Text → Option Text) (dagId : Text)
    (log : List (ι × Action Broker (List OffsetRange))) : Prop where
  /-- The tasks are in order. -/
  ordered : WellOrdered sys log
  /-- Only snapshots are reported. -/
  reported_snapshot : ∀ v ∈ reportedIn log, ∃ b, Snapshot cfg b v
  /-- Every `checkpoint_from` in flight is safe to resume from. -/
  from_safe : ∀ i v, lastFrom log i = some (some v) → SafeToResume cfg log v
  /-- The batch of a run leaves nothing out below its `checkpoint_to`. -/
  batch_below : ∀ i b w, lastBatch log i = some b → lastTo log i = some (some w) →
    w.Below fun tp => landedOffsets log tp ∪ offsetsIn b tp
  /-- When a batch has landed, everything below the `checkpoint_to` of its run has. -/
  landed_below : ∀ i b w, Landed log i b → lastTo log i = some (some w) →
    w.Below (landedOffsets log)
  /-- The stored checkpoint is safe to resume from. -/
  stored_safe : ∀ text, sys.stored initial log dagId = some text →
    SafeToResume cfg log (parseText text)

section Steps

variable {sys : System ι Broker (List OffsetRange)} {initial : Text → Option Text} {dagId : Text}
  {broker : Broker} {i : ι} {a : Action Broker (List OffsetRange)}

/-- Nothing is left out before the first action. -/
theorem noGap_nil (hinitial : initial dagId = none) : NoGap cfg sys initial dagId [] where
  ordered := wellOrdered_nil sys
  reported_snapshot v hv := by simp [reportedIn] at hv
  from_safe i v hv := by simp [lastFrom] at hv
  batch_below i b w hb := by simp [lastBatch] at hb
  landed_below i b w hb := by simp [Landed] at hb
  stored_safe text htext := by simp [System.stored, hinitial] at htext

/-- The row that an init task reads is safe to resume from. -/
theorem NoGap.safe_of_parseRow (h : NoGap cfg sys initial dagId log)
    (hrow : InitOperator.parseRow ((sys.stored initial log dagId).map .text) = .ok (some v)) :
    SafeToResume cfg log v := by
  cases hstored : sys.stored initial log dagId with
  | none => simp [hstored, InitOperator.parseRow] at hrow
  | some text =>
    rw [hstored] at hrow
    obtain rfl : parseText text = v := Option.some.inj (Except.ok.inj hrow)
    exact h.stored_safe text hstored

/-- **An allowed action leaves nothing out.** -/
theorem NoGap.cons (h : NoGap cfg sys initial dagId log) (hcfg : cfg.LeavesOffsets)
    (hearliest : cfg.startingOffsets = "earliest".toList) (hdag : ∀ i, (sys.dag i).dagId = dagId)
    (hsource : ∀ i, (sys.dag i).source = kafkaSource cfg countRecords)
    (hallowed : sys.Allowed initial broker log i a) :
    NoGap cfg sys initial dagId ((i, a) :: log) where
  ordered := h.ordered.cons hallowed
  reported_snapshot v hv := by
    rcases hallowed.mem_reportedIn_cases hv with hmax | hv
    · rw [hsource] at hmax
      exact ⟨broker, snapshot_of_fetchCheckpointTo hmax⟩
    · exact h.reported_snapshot v hv
  from_safe j v hv := by
    refine SafeToResume.cons ?_ i a
    rcases hallowed.lastFrom_cases hv with ⟨rfl, -, hrow⟩ | hv
    · rw [hdag] at hrow
      exact h.safe_of_parseRow hrow
    · exact h.from_safe j v hv
  batch_below j b w hb hto := by
    have hmono (tp : TopicPartition) : landedOffsets log tp ∪ offsetsIn b tp ⊆
        landedOffsets ((i, a) :: log) tp ∪ offsetsIn b tp :=
      Set.union_subset_union_left _ (landedOffsets_cons i a tp)
    rcases hallowed.lastBatch_cases hb with ⟨rfl, -, f, t, hinit, hfrom, ht, hread⟩ | hb
    · rw [hallowed.lastTo_cons hinit, ht] at hto
      obtain rfl := Option.some.inj hto
      rw [hsource] at hread
      obtain ⟨b₁, hw⟩ := h.reported_snapshot w (mem_reportedIn_of_lastTo ht)
      refine (below_of_kafkaRead hcfg hearliest (fun v hv => ?_) hw hread).mono hmono
      exact h.from_safe j v (hv ▸ hfrom)
    · rw [hallowed.lastTo_cons (h.ordered.batch_init hb)] at hto
      exact (h.batch_below j b w hb hto).mono hmono
  landed_below j b w hb hto := by
    rcases landed_cons.mp hb with ⟨rfl, rfl⟩ | hb
    · cases hallowed with
      | landed hinit hbatch =>
        have hto : lastTo log j = some (some w) :=
          (newest_cons_of_none rfl j j log).symm.trans hto
        refine (h.batch_below j b w hbatch hto).mono fun tp => ?_
        refine Set.union_subset (landedOffsets_cons _ _ tp) fun o ho => ?_
        exact ⟨j, b, landed_cons.mpr (.inl ⟨rfl, rfl⟩), ho⟩
      | copied hinit hpath =>
        rw [hsource] at hpath
        exact absurd hpath (by simp [kafkaSource, SourceConfig.isPath])
    · rw [hallowed.lastTo_cons (h.ordered.landed_init j b hb)] at hto
      exact (h.landed_below j b w hb hto).mono (landedOffsets_cons i a)
  stored_safe text htext := by
    refine SafeToResume.cons ?_ i a
    by_cases ha : ∃ text', a = .saved text'
    · obtain ⟨text', rfl⟩ := ha
      rw [System.stored_saved, hdag, Function.update_self] at htext
      obtain rfl := Option.some.inj htext
      have hordered := h.ordered.cons hallowed
      have hto := hordered.parseText_of_saved List.mem_cons_self
      cases hallowed with
      | saved hspark =>
        have hto : lastTo log i = some (some (parseText text')) :=
          (newest_cons_of_none rfl i i log).symm.trans hto
        obtain ⟨b, hb⟩ := h.ordered.spark_landed i hspark
        exact ⟨h.reported_snapshot _ (mem_reportedIn_of_lastTo hto), h.landed_below i b _ hb hto⟩
    · rw [sys.stored_cons_of_ne initial i fun text' h' => ha ⟨text', h'⟩] at htext
      exact h.stored_safe text htext

end Steps

/-! ### Runs -/

/-- The runs of one DAG over a Kafka source, whatever happens to the broker, leave nothing out. -/
theorem noGap_of_exec {dagId : Text} {info : ι → RunInfo}
    {moves : List CheckpointValue → Broker → Broker → Bool} {broker : Broker}
    {store : Text → Option Text} (hcfg : cfg.LeavesOffsets)
    (hearliest : cfg.startingOffsets = "earliest".toList) (hstore : store dagId = none)
    {es : List (Event ι Broker)} {S : State ι Broker (List OffsetRange)}
    (h : exec (DagFactory.oneDag dagId (kafkaSource cfg countRecords) info moves).step
      (State.start (DagFactory.oneDag dagId (kafkaSource cfg countRecords) info moves) broker store)
        es = some S) :
    NoGap cfg (DagFactory.oneDag dagId (kafkaSource cfg countRecords) info moves) store dagId
      S.log :=
  System.ledger_invariant
    (fun _ => NoGap cfg (DagFactory.oneDag dagId (kafkaSource cfg countRecords) info moves) store
      dagId)
    (noGap_nil hstore) (fun hinv _ => hinv)
    (fun hinv hallowed => hinv.cons hcfg hearliest (fun _ => rfl) (fun _ => rfl) hallowed) h

/-- **Overlapping runs skip no message.** The runs of one DAG over a Kafka source interleave
arbitrarily while messages arrive and partitions are added; every step may raise and be
retried, and snapshots may fail. In every reachable state the stored text is a snapshot, and
every message below an offset that it names has landed. The same holds of every checkpoint
that a run in flight resumes from. -/
theorem kafkaRuns_skipNothing {dagId : Text} {info : ι → RunInfo} {broker : Broker}
    {store : Text → Option Text} (hcfg : cfg.LeavesOffsets)
    (hearliest : cfg.startingOffsets = "earliest".toList) (hstore : store dagId = none)
    {es : List (Event ι Broker)} {S : State ι Broker (List OffsetRange)}
    (h : exec (kafkaGrowing dagId cfg countRecords info).step
      (State.start (kafkaGrowing dagId cfg countRecords info) broker store) es = some S) :
    (∀ text, S.store dagId = some text → SafeToResume cfg S.log (parseText text)) ∧
      ∀ i v, lastFrom S.log i = some (some v) → SafeToResume cfg S.log v := by
  have hinv := noGap_of_exec hcfg hearliest hstore h
  refine ⟨fun text htext => hinv.stored_safe text ?_, hinv.from_safe⟩
  exact (congrFun (System.simulates_of_exec h).store_eq dagId).symm.trans htext

end Overlap

/-! ### What is known of the broker -/

section Past

variable [DecidableEq ι] {sys : System ι Broker (List OffsetRange)} {initial : Text → Option Text}
  {dagId : Text} {before : Broker → Broker → Prop} {broker next : Broker} {i : ι}
  {a : Action Broker (List OffsetRange)}

/-- Everything that was taken from the broker was taken from an earlier state, in the sense of
a relation, and so was everything that is stored. -/
structure Past (cfg : KafkaSourceConfig) (before : Broker → Broker → Prop)
    (sys : System ι Broker (List OffsetRange)) (initial : Text → Option Text) (dagId : Text)
    (broker : Broker) (log : List (ι × Action Broker (List OffsetRange))) : Prop where
  /-- The tasks are in order. -/
  ordered : WellOrdered sys log
  /-- Every reported value is a snapshot of an earlier state. -/
  reported : ∀ v ∈ reportedIn log, ∃ b, Snapshot cfg b v ∧ before b broker
  /-- Every `checkpoint_from` is one. -/
  fetched : ∀ i v, lastFrom log i = some (some v) → ∃ b, Snapshot cfg b v ∧ before b broker
  /-- Every read saw an earlier state. -/
  read : ∀ i source b, (i, .read source b) ∈ log → before source broker
  /-- The stored checkpoint is a snapshot of an earlier state. -/
  stored : ∀ text, sys.stored initial log dagId = some text →
    ∃ b, Snapshot cfg b (parseText text) ∧ before b broker

/-- An earlier state stays one when the broker changes. -/
theorem Past.of_before (h : Past cfg before sys initial dagId broker log)
    (htrans : ∀ {b₀ b₁ b₂}, before b₀ b₁ → before b₁ b₂ → before b₀ b₂)
    (hnext : before broker next) : Past cfg before sys initial dagId next log where
  ordered := h.ordered
  reported v hv := (h.reported v hv).imp fun _ hb => ⟨hb.1, htrans hb.2 hnext⟩
  fetched i v hv := (h.fetched i v hv).imp fun _ hb => ⟨hb.1, htrans hb.2 hnext⟩
  read i source b hmem := htrans (h.read i source b hmem) hnext
  stored text htext := (h.stored text htext).imp fun _ hb => ⟨hb.1, htrans hb.2 hnext⟩

/-- An action takes something from the current state, or from an earlier one. -/
theorem Past.cons (h : Past cfg before sys initial dagId broker log) (hrefl : before broker broker)
    (hdag : ∀ i, (sys.dag i).dagId = dagId)
    (hsource : ∀ i, (sys.dag i).source = kafkaSource cfg countRecords)
    (hallowed : sys.Allowed initial broker log i a) :
    Past cfg before sys initial dagId broker ((i, a) :: log) where
  ordered := h.ordered.cons hallowed
  reported v hv := by
    rcases hallowed.mem_reportedIn_cases hv with hmax | hv
    · rw [hsource] at hmax
      exact ⟨broker, snapshot_of_fetchCheckpointTo hmax, hrefl⟩
    · exact h.reported v hv
  fetched j v hv := by
    rcases hallowed.lastFrom_cases hv with ⟨-, -, hrow⟩ | hv
    · rw [parseRow_text, hdag] at hrow
      obtain ⟨text, htext, rfl⟩ := Option.map_eq_some_iff.mp (Except.ok.inj hrow)
      exact h.stored text htext
    · exact h.fetched j v hv
  read j source b hmem := by
    rcases did_cons.mp hmem with ⟨rfl, rfl⟩ | hmem
    · cases hallowed with
      | read => exact hrefl
    · exact h.read j source b hmem
  stored text htext := by
    by_cases ha : ∃ text', a = .saved text'
    · obtain ⟨text', rfl⟩ := ha
      rw [System.stored_saved, hdag, Function.update_self] at htext
      obtain rfl := Option.some.inj htext
      have hto := (h.ordered.cons hallowed).parseText_of_saved List.mem_cons_self
      have hto : lastTo log i = some (some (parseText text')) :=
        (newest_cons_of_none rfl i i log).symm.trans hto
      exact h.reported _ (mem_reportedIn_of_lastTo hto)
    · rw [sys.stored_cons_of_ne initial i fun text' h' => ha ⟨text', h'⟩] at htext
      exact h.stored text htext

/-- What the runs of a Kafka DAG know is from earlier states of the broker. -/
theorem past_of_exec {info : ι → RunInfo}
    {moves : List CheckpointValue → Broker → Broker → Bool} {store : Text → Option Text}
    (hrefl : ∀ b, before b b) (htrans : ∀ {b₀ b₁ b₂}, before b₀ b₁ → before b₁ b₂ → before b₀ b₂)
    (hmoves : ∀ {vs old next}, moves vs old next = true → before old next)
    (hstore : ∀ text, store dagId = some text →
      ∃ b, maxKafka cfg.topic (.ok b) = .ok text ∧ before b broker)
    {es : List (Event ι Broker)} {s : State ι Broker (List OffsetRange)}
    (h : exec (DagFactory.oneDag dagId (kafkaSource cfg countRecords) info moves).step
      (State.start (DagFactory.oneDag dagId (kafkaSource cfg countRecords) info moves) broker store)
        es = some s) :
    Past cfg before (DagFactory.oneDag dagId (kafkaSource cfg countRecords) info moves) store dagId
      s.source s.log := by
  refine System.ledger_invariant
    (Past cfg before (DagFactory.oneDag dagId (kafkaSource cfg countRecords) info moves) store
      dagId) ?_
    (fun hinv hmove => hinv.of_before htrans (hmoves hmove))
    (fun hinv hallowed => hinv.cons (hrefl _) (fun _ => rfl) (fun _ => rfl) hallowed) h
  refine ⟨wellOrdered_nil _, fun v hv => ?_, fun i v hv => ?_, fun i source b hmem => ?_,
    fun text htext => ?_⟩
  · simp [reportedIn] at hv
  · simp [lastFrom] at hv
  · simp at hmem
  · obtain ⟨b, hmax, hbefore⟩ := hstore text htext
    exact ⟨b, ⟨text, parseText_maxKafka hmax, hmax⟩, hbefore⟩

end Past

/-! ### Two overlapping runs -/

/-- The init task of a run, a whole run after more messages, and the rest of the first run. -/
def overtakenRun : List (Event ℕ Broker) :=
  ((kafkaSource ordersEvents false).uneventful 1 .up).take 10 ++
    [.source (.withPartitions 1 9)] ++ (kafkaSource ordersEvents false).uneventful 2 .up ++
    ((kafkaSource ordersEvents false).uneventful 1 .up).drop 10

/-- The overtaken run puts the stored offsets back, and everything below them has landed. -/
theorem kafkaRuns_skipNothing_overtakenRun :
    ∃ S, exec growingSystem.step onePartition overtakenRun = some S ∧
      S.store "events".toList = some fiveMessages ∧
      (4 : ℤ) ∈ landedOffsets S.log ("orders-events".toList, 0) := by
  have hstored : ((exec growingSystem.step onePartition overtakenRun).bind fun S =>
      S.store "events".toList) = some fiveMessages := by decide +kernel
  obtain ⟨S, hS, htext⟩ := Option.bind_eq_some_iff.mp hstored
  obtain ⟨-, hbelow⟩ := (kafkaRuns_skipNothing leavesOffsets_ordersEvents rfl rfl hS).1 _ htext
  have hstop : (parseText fiveMessages).offset ("orders-events".toList, 0) = some 5 := by
    decide +kernel
  exact ⟨S, hS, htext, hbelow _ 5 hstop 4 (by decide) (by decide)⟩

end BatchIngestion
