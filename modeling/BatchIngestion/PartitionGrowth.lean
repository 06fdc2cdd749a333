import BatchIngestion.KafkaAdapter
import BatchIngestion.Sequential

/-!
# Kafka offset maps when partitions are added

The start of a read is the text of an older snapshot, its end a fresh one. A run that
resumes from a stored checkpoint names in `startingOffsets` the partitions that were
subscribed when the stored snapshot was taken, and in `endingOffsets` those at its own
snapshot. The two agree if and only if no partition was added in between.
-/

namespace BatchIngestion

open Python Library

variable {ι : Type} {cfg : KafkaSourceConfig} {countRecords : Bool}

/-- The states that the broker has been in, newest first. -/
def brokerStates (states : List Broker) : Event ι Broker → Option (List Broker)
  | .source next => some (next :: states)
  | _ => some states

/-- The broker does not change when a run acts. -/
theorem brokerStates_actor {states states' : List Broker} {e : Event ι Broker} {i : ι}
    (hactor : e.actor = some i) (h : brokerStates states e = some states') : states' = states := by
  cases e with
  | source => simp [Event.actor] at hactor
  | _ => exact (Option.some.inj h).symm

/-- A value is a snapshot of one of the states. -/
def Taken (cfg : KafkaSourceConfig) (states : List Broker) (v : CheckpointValue) : Prop :=
  ∃ b ∈ states, Snapshot cfg b v

/-- A value is a snapshot of one of the states, and another one of the same state or a later
one. -/
def TakenBefore (cfg : KafkaSourceConfig) (states : List Broker) (v w : CheckpointValue) : Prop :=
  ∃ newer b₁ older b₀, states = newer ++ b₁ :: older ∧ b₀ ∈ b₁ :: older ∧ Snapshot cfg b₀ v ∧
    Snapshot cfg b₁ w

/-- Snapshots stay in their order. -/
theorem TakenBefore.cons {states : List Broker} {v w : CheckpointValue}
    (h : TakenBefore cfg states v w) (next : Broker) : TakenBefore cfg (next :: states) v w := by
  obtain ⟨newer, b₁, older, b₀, rfl, hb, hv, hw⟩ := h
  exact ⟨next :: newer, b₁, older, b₀, rfl, hb, hv, hw⟩

/-- The runs of a DAG over a Kafka source to which partitions are added. -/
def kafkaGrowing (dagId : Text) (cfg : KafkaSourceConfig) (countRecords : Bool)
    (info : ι → RunInfo) : System ι Broker (List OffsetRange) :=
  DagFactory.oneDag dagId (kafkaSource cfg countRecords) info fun _ old next => cfg.Grows old next

section Growth

variable [DecidableEq ι]

/-- What a history records of snapshots: every value in it was taken, and the start of a
window before its end. -/
structure TakenInOrder (cfg : KafkaSourceConfig) (sys : System ι Broker (List OffsetRange))
    (initial : Text → Option Text) (dagId : Text) (broker : Broker)
    (log : List (ι × Action Broker (List OffsetRange))) (states : List Broker) : Prop where
  /-- The tasks are in order. -/
  ordered : WellOrdered sys log
  /-- The newest state is the current one. -/
  current : ∃ older, states = broker :: older
  /-- Partitions were only added. -/
  grown : states.Pairwise fun newer older => cfg.Grows older newer
  /-- The initial row is a snapshot. -/
  initial_taken : ∀ text, initial dagId = some text → Taken cfg states (parseText text)
  /-- Every reported value is a snapshot. -/
  reported_taken : ∀ v ∈ reportedIn log, Taken cfg states v
  /-- Every `checkpoint_from` is a snapshot. -/
  from_taken : ∀ i v, lastFrom log i = some (some v) → Taken cfg states v
  /-- The `checkpoint_from` of a run was taken before its `checkpoint_to`. -/
  from_before_to : ∀ i v w, ToAfterFrom log i → lastFrom log i = some (some v) →
    lastTo log i = some (some w) → TakenBefore cfg states v w

section Steps

variable {sys : System ι Broker (List OffsetRange)} {initial : Text → Option Text} {dagId : Text}
  {broker next : Broker} {log : List (ι × Action Broker (List OffsetRange))} {states : List Broker}
  {i : ι} {a : Action Broker (List OffsetRange)}

/-- Only the initial row is a snapshot before the first action. -/
theorem takenInOrder_nil {past : List Broker}
    (hgrown : (broker :: past).Pairwise fun newer older => cfg.Grows older newer)
    (hinitial : ∀ text, initial dagId = some text → Taken cfg (broker :: past) (parseText text)) :
    TakenInOrder cfg sys initial dagId broker [] (broker :: past) where
  ordered := wellOrdered_nil sys
  current := ⟨past, rfl⟩
  grown := hgrown
  initial_taken := hinitial
  reported_taken v hv := by simp [reportedIn] at hv
  from_taken i v hv := by simp [lastFrom] at hv
  from_before_to i v w horder hv := by simp [lastFrom] at hv

/-- Added partitions change no snapshot that was taken. -/
theorem TakenInOrder.of_grows (h : TakenInOrder cfg sys initial dagId broker log states)
    (hgrows : cfg.Grows broker next) :
    TakenInOrder cfg sys initial dagId next log (next :: states) := by
  have hkeep {v : CheckpointValue} (hv : Taken cfg states v) : Taken cfg (next :: states) v :=
    hv.imp fun _ hb => ⟨List.mem_cons_of_mem _ hb.1, hb.2⟩
  exact {
    ordered := h.ordered
    current := ⟨states, rfl⟩
    grown := by
      obtain ⟨older, rfl⟩ := h.current
      refine List.pairwise_cons.mpr ⟨fun b hb => ?_, h.grown⟩
      rcases List.mem_cons.mp hb with rfl | hb
      · exact hgrows
      · exact ((List.pairwise_cons.mp h.grown).1 b hb).trans hgrows
    initial_taken := fun text htext => hkeep (h.initial_taken text htext)
    reported_taken := fun v hv => hkeep (h.reported_taken v hv)
    from_taken := fun i v hv => hkeep (h.from_taken i v hv)
    from_before_to := fun i v w horder hv hw => (h.from_before_to i v w horder hv hw).cons next }

/-- The row of the DAG holds a snapshot. -/
theorem TakenInOrder.taken_of_parseRow (h : TakenInOrder cfg sys initial dagId broker log states)
    {v : CheckpointValue}
    (hrow : InitOperator.parseRow ((sys.stored initial log dagId).map .text) = .ok (some v)) :
    Taken cfg states v := by
  cases hstored : sys.stored initial log dagId with
  | none => simp [hstored, InitOperator.parseRow] at hrow
  | some text =>
    rw [hstored] at hrow
    obtain rfl : parseText text = v := Option.some.inj (Except.ok.inj hrow)
    rcases System.stored_eq_some hstored with hinit | ⟨j, hsaved, -⟩
    · exact h.initial_taken text hinit
    · exact h.reported_taken _ (mem_reportedIn_of_lastTo (h.ordered.parseText_of_saved hsaved))

/-- A run that fetched its `checkpoint_from` has computed no `checkpoint_to` since. -/
theorem not_toAfterFrom_fetchedFrom (v : Option CheckpointValue) :
    ¬ ToAfterFrom ((i, .fetchedFrom v) :: log) i := by
  rw [ToAfterFrom, newest_cons, if_pos rfl]
  simp [Action.isTo?]

/-- **An action takes a new snapshot after every older one.** -/
theorem TakenInOrder.act (h : TakenInOrder cfg sys initial dagId broker log states)
    (hdag : (sys.dag i).dagId = dagId) (hsource : (sys.dag i).source = kafkaSource cfg countRecords)
    (hallowed : sys.Allowed initial broker log i a) :
    TakenInOrder cfg sys initial dagId broker ((i, a) :: log) states := by
  obtain ⟨older, hstates⟩ := h.current
  have hsnapshot {v : CheckpointValue} (hmax : InitOperator.fetchCheckpointTo
      (sys.dag i).source.readType (sys.dag i).source.config
      ((sys.dag i).source.native broker) = some v) : Snapshot cfg broker v := by
    rw [hsource] at hmax
    exact snapshot_of_fetchCheckpointTo hmax
  have hfrom_taken (j : ι) (v : CheckpointValue)
      (hv : lastFrom ((i, a) :: log) j = some (some v)) : Taken cfg states v := by
    rcases hallowed.lastFrom_cases hv with ⟨rfl, -, hrow⟩ | hv
    · exact h.taken_of_parseRow (hdag ▸ hrow)
    · exact h.from_taken j v hv
  refine ⟨h.ordered.cons hallowed, h.current, h.grown, h.initial_taken, fun v hv => ?_, hfrom_taken,
    fun j v w horder hv hw => ?_⟩
  · rcases hallowed.mem_reportedIn_cases hv with hmax | hv
    · exact ⟨broker, by simp [hstates], hsnapshot hmax⟩
    · exact h.reported_taken v hv
  · by_cases hij : i = j
    · subst hij
      cases hallowed with
      | fetchedFrom => exact absurd horder (not_toAfterFrom_fetchedFrom _)
      | @fetchedTo t hopen hmax =>
        -- the end of the window is taken now, its start was taken before
        obtain rfl : t = some w := Option.some.inj ((lastTo_fetchedTo log i t).symm.trans hw)
        obtain ⟨b, hb, hv⟩ := hfrom_taken i v hv
        exact ⟨[], broker, older, b, hstates, hstates ▸ hb, hv,
          hsnapshot (hmax.resolve_left (by simp)).symm⟩
      | _ =>
        exact h.from_before_to i v w ((newest_cons_of_none rfl i i log).symm.trans horder)
          ((newest_cons_of_none rfl i i log).symm.trans hv)
          ((newest_cons_of_none rfl i i log).symm.trans hw)
    · exact h.from_before_to j v w ((newest_cons_of_ne _ hij a log).symm.trans horder)
        ((newest_cons_of_ne _ hij a log).symm.trans hv)
        ((newest_cons_of_ne _ hij a log).symm.trans hw)

end Steps

/-! ### Runs -/

/-- **What the two offset maps of a run name.** The runs of one DAG over a Kafka source
interleave arbitrarily while partitions may be added; every step may raise and be retried,
and snapshots may fail. A run that resumes from a stored checkpoint and has taken its
snapshot names in `startingOffsets` the partitions that were subscribed in the state of the
broker that the stored snapshot shows, and in `endingOffsets` those in the state at its own
snapshot. No start lacks its end, and the two name the same partitions if and only if none
was added in between. A read is accepted if and only if none was added since the stored
snapshot was taken. -/
theorem offsetMaps_named {dagId : Text} {info : ι → RunInfo} {broker : Broker} {past : List Broker}
    {store : Text → Option Text} (hcfg : cfg.LeavesOffsets)
    (hpast : (broker :: past).Pairwise fun newer older => cfg.Grows older newer)
    (hstore : ∀ text, store dagId = some text → ∃ b ∈ past, maxKafka cfg.topic (.ok b) = .ok text)
    {es : List (Event ι Broker)} {S : State ι Broker (List OffsetRange)} {states : List Broker}
    (h : exec (kafkaGrowing dagId cfg countRecords info).step
      (State.start (kafkaGrowing dagId cfg countRecords info) broker store) es = some S)
    (hstates : exec brokerStates (broker :: past) es = some states)
    {i : ι} {v w : CheckpointValue} (hinit : Finished S.log i .init)
    (hfrom : lastFrom S.log i = some (some v)) (hto : lastTo S.log i = some (some w)) :
    ∃ starting ending newer b₁ older b₀,
      offsetOptions cfg (some v) (some w) = .ok (starting, ending) ∧
      states = newer ++ b₁ :: older ∧ b₀ ∈ b₁ :: older ∧
      maxKafka cfg.topic (.ok b₀) = .ok starting ∧ maxKafka cfg.topic (.ok b₁) = .ok ending ∧
      namedBy starting = {tp | tp ∈ cfg.subscribed b₀} ∧
      namedBy ending = {tp | tp ∈ cfg.subscribed b₁} ∧
      namedBy starting ⊆ namedBy ending ∧
      (namedBy starting = namedBy ending ↔ cfg.Grows b₁ b₀) ∧
      ∀ b, cfg.Grows b₁ b →
        ((∃ ranges, kafkaRead cfg b (some v) (some w) = .ok ranges) ↔ cfg.Grows b b₀) := by
  have hinv : TakenInOrder cfg (kafkaGrowing dagId cfg countRecords info) store dagId S.source
      S.log states := by
    refine System.ledger_invariant₂
      (TakenInOrder cfg (kafkaGrowing dagId cfg countRecords info) store dagId)
      (takenInOrder_nil hpast fun text htext => ?_) ?_ ?_ ?_ h hstates
    · obtain ⟨b, hb, hmax⟩ := hstore text htext
      exact ⟨b, List.mem_cons_of_mem _ hb, text, parseText_maxKafka hmax, hmax⟩
    · intro src log m next n hinv hmoves hw
      obtain rfl : next :: m = n := Option.some.inj hw
      exact hinv.of_grows (of_decide_eq_true hmoves)
    · intro src log m n e i hinv hactor hw
      rw [brokerStates_actor hactor hw]
      exact hinv
    · intro src log m n e i a hinv hactor hw hallowed
      exact hinv.act rfl rfl hallowed
  obtain ⟨newer, b₁, older, b₀, rfl, hb₀, ⟨starting, rfl, hstarting⟩, ⟨ending, rfl, hending⟩⟩ :=
    hinv.from_before_to i v w (hinv.ordered.init_order i hinit) hfrom hto
  have hgrows : cfg.Grows b₀ b₁ := by
    rcases List.mem_cons.mp hb₀ with rfl | hb₀
    · exact .refl cfg b₀
    · exact (List.pairwise_cons.mp (List.pairwise_append.mp hinv.grown).2.1).1 b₀ hb₀
  have hnamed := namedBy_maxKafka hstarting
  have hnamed' := namedBy_maxKafka hending
  refine ⟨starting, ending, newer, b₁, older, b₀, hcfg.offsetOptions_eq rfl rfl, rfl, hb₀,
    hstarting, hending, hnamed, hnamed', ?_, ?_, fun b hb => ?_⟩
  · rw [hnamed, hnamed']
    exact hgrows
  · rw [hnamed, hnamed']
    exact ⟨fun heq => heq.ge, fun hback => Set.Subset.antisymm hgrows hback⟩
  · rw [exists_kafkaRead_iff hcfg hstarting hending, hnamed, hnamed']
    constructor
    · rintro ⟨heq, -⟩
      exact heq.ge
    · intro hback
      exact ⟨Set.Subset.antisymm (hgrows.trans hb) hback,
        Set.Subset.antisymm hb (hback.trans hgrows)⟩

end Growth

/-! ### An added partition -/

/-- The runs of the DAG `events`, numbered. -/
def growingSystem : System ℕ Broker (List OffsetRange) :=
  kafkaGrowing "events".toList ordersEvents false fun _ => ⟨[], [], []⟩

/-- One partition with five messages, and no stored checkpoint. -/
def onePartition : State ℕ Broker (List OffsetRange) :=
  State.start growingSystem (.withPartitions 1 5) fun _ => none

/-- An uneventful run, an added partition, and the init task of a second run. -/
def addedPartition : List (Event ℕ Broker) :=
  (kafkaSource ordersEvents false).uneventful 1 .up ++ [.source (.withPartitions 2 9)] ++
    ((kafkaSource ordersEvents false).uneventful 2 .up).take 10

/-- The snapshot before the partition was added. -/
def fiveMessages : Text := "\x7b\"orders-events\": \x7b\"0\": 5\x7d\x7d".toList

/-- The snapshot after it was added. -/
def nineMessages : Text := "\x7b\"orders-events\": \x7b\"0\": 9, \"1\": 9\x7d\x7d".toList

/-- The second run resumes from the first snapshot and takes the second one. -/
theorem exec_addedPartition : ∃ S, exec growingSystem.step onePartition addedPartition = some S ∧
    Finished S.log 2 .init ∧ lastFrom S.log 2 = some (some (.str fiveMessages)) ∧
    lastTo S.log 2 = some (some (.str nineMessages)) := by
  have hrun : ((exec growingSystem.step onePartition addedPartition).map fun S =>
      (lastFrom S.log 2, lastTo S.log 2, (S.runs 2).task)) =
      some (some (some (.str fiveMessages)), some (some (.str nineMessages)), .sparkRun) := by
    decide +kernel
  obtain ⟨S, hS, heq⟩ := Option.map_eq_some_iff.mp hrun
  obtain ⟨hfrom, heq⟩ := Prod.mk.inj heq
  obtain ⟨hto, htask⟩ := Prod.mk.inj heq
  exact ⟨S, hS, ((System.simulates_of_exec hS).tracks 2).init_finished (by simp [htask]), hfrom,
    hto⟩

/-- The first of the two maps names no partition that the second one lacks. -/
theorem offsetMaps_named_addedPartition : ∃ starting ending,
    offsetOptions ordersEvents (some (.str fiveMessages)) (some (.str nineMessages)) =
      .ok (starting, ending) ∧ namedBy starting ⊆ namedBy ending := by
  obtain ⟨S, hS, hinit, hfrom, hto⟩ := exec_addedPartition
  have hstates : exec brokerStates [.withPartitions 1 5] addedPartition =
      some [.withPartitions 2 9, .withPartitions 1 5] := rfl
  obtain ⟨starting, ending, newer, b₁, older, b₀, hoptions, -, -, -, -, -, -, hsubset, -⟩ :=
    offsetMaps_named leavesOffsets_ordersEvents (List.pairwise_singleton _ _) (by simp) hS hstates
      hinit hfrom hto
  exact ⟨starting, ending, hoptions, hsubset⟩

/-- A partition is added between two runs: the second run names it in `endingOffsets` only. -/
theorem offsetMaps_differ_addedPartition : ∃ S v w starting ending,
    exec growingSystem.step onePartition addedPartition = some S ∧
      exec nonOverlapping [] addedPartition = some [2, 1] ∧ Finished S.log 2 .init ∧
      lastFrom S.log 2 = some (some v) ∧ lastTo S.log 2 = some (some w) ∧
      offsetOptions ordersEvents (some v) (some w) = .ok (starting, ending) ∧
      namedBy starting ≠ namedBy ending := by
  obtain ⟨S, hS, hinit, hfrom, hto⟩ := exec_addedPartition
  have hwatch : exec nonOverlapping [] addedPartition = some [2, 1] := by decide +kernel
  have hoptions : offsetOptions ordersEvents (some (.str fiveMessages)) (some (.str nineMessages)) =
      .ok (fiveMessages, nineMessages) := leavesOffsets_ordersEvents.offsetOptions_eq rfl rfl
  refine ⟨S, _, _, _, _, hS, hwatch, hinit, hfrom, hto, hoptions, fun heq => ?_⟩
  have hending : (sparkOffset nineMessages "orders-events".toList 1).isSome = true := by
    decide +kernel
  have hstarting : (sparkOffset fiveMessages "orders-events".toList 1).isSome = false := by
    decide +kernel
  have hmem := (Set.ext_iff.mp heq ("orders-events".toList, 1)).mpr hending
  exact Bool.false_ne_true (hstarting.symm.trans hmem)

end BatchIngestion
