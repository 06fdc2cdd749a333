import BatchIngestion.KafkaAdapter
import BatchIngestion.Library.Tiling
import BatchIngestion.Sequential

/-!
# Kafka batches tile the log

The runs of a DAG that do not overlap read consecutive half-open windows of every
partition: each run starts at the offsets of the snapshot that the latest earlier run
has saved, and stops at those of its own. Snapshots name every partition, and end
offsets never decrease, so the windows of the runs that saved tile what lies below the
stored offsets.
-/

namespace BatchIngestion

open Python Library

variable {ι : Type} {cfg : KafkaSourceConfig} {countRecords : Bool}

/-- The offsets of a partition that a run has read. -/
def offsetsRead (log : List (ι × Action Broker (List OffsetRange))) (i : ι) (tp : TopicPartition) :
    Set ℤ :=
  {o | ∃ source b, (i, .read source b) ∈ log ∧ ∃ range ∈ b,
    (range.topic, range.partition) = tp ∧ range.fromOffset ≤ o ∧ o < range.untilOffset}

/-- The offset of a snapshot for a partition, the beginning where it names none. -/
def endOf (v : CheckpointValue) (tp : TopicPartition) : ℤ := (v.offset tp).getD 0

/-- The runs of a DAG over a Kafka source with fixed partitions. -/
def kafkaAppending (dagId : Text) (cfg : KafkaSourceConfig) (countRecords : Bool)
    (info : ι → RunInfo) : System ι Broker (List OffsetRange) :=
  DagFactory.oneDag dagId (kafkaSource cfg countRecords) info fun _ old next => cfg.Appends old next

/-- Later snapshots have no lower offsets. -/
theorem endOf_le_endOf {b₀ b₁ : Broker} {v w : CheckpointValue} (hv : Snapshot cfg b₀ v)
    (hw : Snapshot cfg b₁ w) (h : cfg.Appends b₀ b₁) (tp : TopicPartition) :
    endOf v tp ≤ endOf w tp := by
  rw [endOf, endOf, hv.offset_eq, hw.offset_eq, if_congr h.subscribed_iff rfl rfl]
  split
  · rename_i htp
    exact Int.ofNat_le.mpr (h.2.2 tp (h.subscribed_iff.mpr htp))
  · rfl

/-- Snapshots have no negative offsets. -/
theorem Snapshot.endOf_nonneg {b : Broker} {v : CheckpointValue} (hv : Snapshot cfg b v)
    (tp : TopicPartition) : 0 ≤ endOf v tp := by
  rw [endOf, hv.offset_eq]
  split
  · exact Int.natCast_nonneg _
  · rfl

/-- A snapshot names the partitions that are subscribed later. -/
theorem Snapshot.offset_eq_endOf {b broker : Broker} {v : CheckpointValue} (hv : Snapshot cfg b v)
    (h : cfg.Appends b broker) {tp : TopicPartition} (htp : tp ∈ cfg.subscribed broker) :
    v.offset tp = some (endOf v tp) := by
  rw [endOf, hv.offset_eq, if_pos (h.subscribed_iff.mpr htp), Option.getD_some]

section Appending

variable [DecidableEq ι]

/-- Where a run that saved has stopped in a partition. -/
def savedEnd (log : List (ι × Action Broker (List OffsetRange))) (tp : TopicPartition) (i : ι) :
    Option ℤ :=
  if HasSaved log i then (lastTo log i).join.map fun v => endOf v tp else none

/-- What a history of runs that do not overlap records of snapshots and reads. -/
structure Appended (cfg : KafkaSourceConfig) (sys : System ι Broker (List OffsetRange))
    (initial : Text → Option Text) (dagId : Text) (broker : Broker)
    (log : List (ι × Action Broker (List OffsetRange))) (ran : List ι) : Prop where
  /-- The runs are sequential. -/
  sequential : Sequential sys initial dagId log ran
  /-- Every reported value is a snapshot of an earlier state of the broker. -/
  reported_snapshot : ∀ v ∈ reportedIn log, ∃ b, Snapshot cfg b v ∧ cfg.Appends b broker
  /-- Later snapshots have no lower offsets. -/
  reported_ascending : (reportedIn log).Pairwise fun newer older =>
    ∀ tp, endOf older tp ≤ endOf newer tp
  /-- Every read saw an earlier state of the broker. -/
  read_appends : ∀ i source b, (i, .read source b) ∈ log → cfg.Appends source broker

section Steps

variable {sys : System ι Broker (List OffsetRange)} {initial : Text → Option Text} {dagId : Text}
  {broker next : Broker} {log : List (ι × Action Broker (List OffsetRange))} {ran earlier : List ι}
  {i : ι} {a : Action Broker (List OffsetRange)} {tp : TopicPartition}

/-- Nothing is read before the first run. -/
theorem appended_nil (broker : Broker) : Appended cfg sys initial dagId broker [] [] where
  sequential := sequential_nil sys initial dagId
  reported_snapshot v hv := by simp [reportedIn] at hv
  reported_ascending := List.Pairwise.nil
  read_appends i source b hmem := by simp at hmem

/-- Appended messages change nothing that was read. -/
theorem Appended.of_appends (h : Appended cfg sys initial dagId broker log ran)
    (happends : cfg.Appends broker next) : Appended cfg sys initial dagId next log ran where
  sequential := h.sequential
  reported_snapshot v hv := by
    obtain ⟨b, hb, hle⟩ := h.reported_snapshot v hv
    exact ⟨b, hb, hle.trans happends⟩
  reported_ascending := h.reported_ascending
  read_appends i source b hmem := (h.read_appends i source b hmem).trans happends

/-- A run starts. -/
theorem Appended.start (h : Appended cfg sys initial dagId broker log ran) (hi : i ∉ ran) :
    Appended cfg sys initial dagId broker log (i :: ran) :=
  { h with sequential := h.sequential.start hi }

/-- **The newest run acts**: its snapshot is the highest one. -/
theorem Appended.act (h : Appended cfg sys initial dagId broker log (i :: ran))
    (hdag : (sys.dag i).dagId = dagId) (hsource : (sys.dag i).source = kafkaSource cfg countRecords)
    (hallowed : sys.Allowed initial broker log i a) :
    Appended cfg sys initial dagId broker ((i, a) :: log) (i :: ran) := by
  have hsnapshot {v : CheckpointValue} (hmax : InitOperator.fetchCheckpointTo
      (sys.dag i).source.readType (sys.dag i).source.config
      ((sys.dag i).source.native broker) = some v) : Snapshot cfg broker v := by
    rw [hsource] at hmax
    exact snapshot_of_fetchCheckpointTo hmax
  exact {
    sequential := h.sequential.act hdag hallowed
    reported_snapshot := fun v hv => by
      rcases hallowed.mem_reportedIn_cases hv with hmax | hv
      · exact ⟨broker, hsnapshot hmax, .refl cfg broker⟩
      · exact h.reported_snapshot v hv
    reported_ascending := by
      cases hallowed with
      | @fetchedTo t hopen hmax =>
        cases t with
        | none => exact h.reported_ascending
        | some v =>
          rw [reportedIn_fetchedTo]
          refine List.pairwise_cons.mpr ⟨fun w hw tp => ?_, h.reported_ascending⟩
          obtain ⟨b, hb, happends⟩ := h.reported_snapshot w hw
          exact endOf_le_endOf hb (hsnapshot (hmax.resolve_left (by simp)).symm) happends tp
      | _ => exact h.reported_ascending
    read_appends := fun j source b hmem => by
      rcases did_cons.mp hmem with ⟨rfl, rfl⟩ | hmem
      · cases hallowed with
        | read => exact .refl cfg broker
      · exact h.read_appends j source b hmem }

/-- A run that saved has saved its own snapshot. -/
theorem Appended.exists_snapshot (h : Appended cfg sys initial dagId broker log ran)
    (hsaved : HasSaved log i) :
    ∃ w b, lastTo log i = some (some w) ∧ Snapshot cfg b w ∧ cfg.Appends b broker := by
  obtain ⟨text, hmem⟩ := hsaved
  have hto := h.sequential.ordered.parseText_of_saved hmem
  obtain ⟨b, hb, happends⟩ := h.reported_snapshot _ (mem_reportedIn_of_lastTo hto)
  exact ⟨_, b, hto, hb, happends⟩

/-- Where a run stopped that has saved. -/
theorem savedEnd_eq {w : CheckpointValue} (hsaved : HasSaved log i)
    (hto : lastTo log i = some (some w)) : savedEnd log tp i = some (endOf w tp) := by
  rw [savedEnd, if_pos hsaved, hto]
  rfl

/-- A run that has not saved stopped nowhere. -/
theorem savedEnd_eq_none (hsaved : ¬ HasSaved log i) : savedEnd log tp i = none := if_neg hsaved

/-- What the runs leave behind in the store is where they have stopped. -/
theorem Appended.frontier_eq (h : Appended cfg sys initial dagId broker log ran) (runs : List ι) :
    frontier 0 (savedEnd log tp) runs = (carried none log runs).elim 0 fun v => endOf v tp := by
  induction runs with
  | nil => rfl
  | cons i earlier ih =>
    by_cases hi : HasSaved log i
    · obtain ⟨w, b, hto, -⟩ := h.exists_snapshot hi
      rw [frontier_cons_of_some (savedEnd_eq hi hto), carried_cons_of_saved hi, hto]
      rfl
    · rw [frontier_cons_of_none (savedEnd_eq_none hi), carried_cons_of_not_saved hi, ih]

/-- What the runs leave behind is a snapshot of an earlier state of the broker. -/
theorem Appended.snapshot_of_carried (h : Appended cfg sys initial dagId broker log ran)
    {runs : List ι} {v : CheckpointValue} (hv : carried none log runs = some v) :
    ∃ b, Snapshot cfg b v ∧ cfg.Appends b broker := by
  rw [carried] at hv
  split at hv
  · exact h.reported_snapshot v (mem_reportedIn_of_lastTo (Option.join_eq_some_iff.mp hv))
  · simp at hv

/-- **No run stops before it has started.** -/
theorem Appended.forward (h : Appended cfg sys initial dagId broker log ran) :
    Forward 0 (savedEnd log tp) ran := by
  intro later i earlier e hran he
  have hsaved : HasSaved log i := by
    by_contra hnot
    simp [savedEnd_eq_none hnot] at he
  obtain ⟨w, b, hto, hw, -⟩ := h.exists_snapshot hsaved
  obtain rfl : endOf w tp = e := Option.some.inj ((savedEnd_eq hsaved hto).symm.trans he)
  rw [h.frontier_eq]
  cases hfind : earlier.find? fun j => HasSaved log j with
  | none =>
    rw [carried, hfind]
    exact hw.endOf_nonneg tp
  | some j =>
    have hj : HasSaved log j := by simpa using List.find?_some hfind
    obtain ⟨v, -, hto', -⟩ := h.exists_snapshot hj
    obtain ⟨newer, older, hreported, hmem⟩ := h.sequential.reports later i earlier hran j
      (List.mem_of_find?_eq_some hfind) w v hto hto'
    have hascending := h.reported_ascending
    rw [hreported] at hascending
    rw [carried, hfind]
    simp only [hto', Option.join_some, Option.elim_some]
    exact (List.pairwise_cons.mp (List.pairwise_append.mp hascending).2.1).1 v hmem tp

/-- The reads of a run that saved gave the window between two snapshots, and there was one. -/
theorem Appended.reads (h : Appended cfg sys initial dagId broker log ran)
    (hinitial : initial dagId = none) (hcfg : cfg.LeavesOffsets)
    (hearliest : cfg.startingOffsets = "earliest".toList)
    (hsource : (sys.dag i).source = kafkaSource cfg countRecords) (htp : tp ∈ cfg.subscribed broker)
    {later : List ι} (hran : ran = later ++ i :: earlier) {e : ℤ}
    (he : savedEnd log tp i = some e) {source : Broker} {b : List OffsetRange}
    (hmem : (i, .read source b) ∈ log) {range : OffsetRange}
    (hrange : (range.topic, range.partition) = tp) :
    range ∈ b ↔
      range.fromOffset = frontier 0 (savedEnd log tp) earlier ∧ range.untilOffset = e := by
  have hsaved : HasSaved log i := by
    by_contra hnot
    simp [savedEnd_eq_none hnot] at he
  obtain ⟨w, b₁, hto, hw, hafter⟩ := h.exists_snapshot hsaved
  obtain rfl : endOf w tp = e := Option.some.inj ((savedEnd_eq hsaved hto).symm.trans he)
  obtain ⟨f, t, hfrom, hto', hread⟩ := h.sequential.ordered.read_window i source b hmem
  obtain rfl : t = some w := Option.some.inj (hto'.symm.trans hto)
  obtain rfl : f = carried none log earlier :=
    hinitial ▸ h.sequential.from_eq later i earlier hran f hfrom
  rw [hsource] at hread
  have hsnapshots : ∀ v, carried none log earlier = some v → ∃ b₀, Snapshot cfg b₀ v :=
    fun v hv => (h.snapshot_of_carried hv).imp fun _ hb => hb.1
  have hstart : startOf (carried none log earlier) tp =
      some (frontier 0 (savedEnd log tp) earlier) := by
    rw [h.frontier_eq]
    cases hv : carried none log earlier with
    | none => rfl
    | some v =>
      obtain ⟨b₀, hb₀, hbefore⟩ := h.snapshot_of_carried hv
      exact hb₀.offset_eq_endOf hbefore htp
  rw [mem_kafkaRead hcfg hearliest hsnapshots hw hread, hrange, hstart,
    hw.offset_eq_endOf hafter htp, (h.read_appends i source b hmem).subscribed_iff]
  simp only [htp, true_and, Option.some.injEq, eq_comm]

/-- **The offsets that a saved run has read are its window.** -/
theorem Appended.mem_offsetsRead_iff (h : Appended cfg sys initial dagId broker log ran)
    (hinitial : initial dagId = none) (hcfg : cfg.LeavesOffsets)
    (hearliest : cfg.startingOffsets = "earliest".toList)
    (hsource : (sys.dag i).source = kafkaSource cfg countRecords)
    (htp : tp ∈ cfg.subscribed broker) {o : ℤ} :
    (HasSaved log i ∧ o ∈ offsetsRead log i tp) ↔ Takes 0 (savedEnd log tp) ran i o := by
  constructor
  · rintro ⟨hsaved, source, b, hmem, range, hrange, rfl, hle, hlt⟩
    obtain ⟨text, hsave⟩ := hsaved
    obtain ⟨later, earlier, hran⟩ := List.append_of_mem (h.sequential.acted _ hsave)
    obtain ⟨w, -, hto, -⟩ := h.exists_snapshot ⟨text, hsave⟩
    have he : savedEnd log (range.topic, range.partition) i = _ := savedEnd_eq ⟨text, hsave⟩ hto
    obtain ⟨hfrom, huntil⟩ :=
      (h.reads hinitial hcfg hearliest hsource htp hran he hmem rfl).mp hrange
    exact ⟨later, earlier, _, hran, he, hfrom ▸ hle, huntil ▸ hlt⟩
  · rintro ⟨later, earlier, e, hran, he, hle, hlt⟩
    have hsaved : HasSaved log i := by
      by_contra hnot
      simp [savedEnd_eq_none hnot] at he
    obtain ⟨text, hsave⟩ := hsaved
    have hspark := h.sequential.ordered.saved_spark i text hsave
    obtain ⟨b, hb⟩ := h.sequential.ordered.spark_landed i hspark
    obtain ⟨source, hmem⟩ := h.sequential.ordered.landed_read i b hb (by rw [hsource]; rfl)
    exact ⟨⟨text, hsave⟩, source, b, hmem, ⟨tp.1, tp.2, _, e⟩,
      (h.reads hinitial hcfg hearliest hsource htp hran he hmem rfl).mpr ⟨rfl, rfl⟩, rfl, hle, hlt⟩

/-- The row of the DAG names where the runs have stopped. -/
theorem Appended.frontier_eq_of_stored (h : Appended cfg sys initial dagId broker log ran)
    (hinitial : initial dagId = none) (htp : tp ∈ cfg.subscribed broker) {text : Text}
    (hstored : sys.stored initial log dagId = some text) :
    sparkOffset text tp.1 tp.2 = some (frontier 0 (savedEnd log tp) ran) := by
  obtain ⟨j, hsaved, -⟩ := (System.stored_eq_some hstored).resolve_left (by simp [hinitial])
  obtain ⟨t, hto, htext⟩ := h.sequential.ordered.saved_to j text hsaved
  obtain ⟨v, rfl, htext⟩ := exists_of_checkpointText htext
  obtain ⟨b, hb, happends⟩ := h.reported_snapshot v (mem_reportedIn_of_lastTo hto)
  obtain ⟨text', rfl, hmax⟩ := hb
  obtain rfl : text' = text := by
    have hif : (if text' = [] then none else some text') = some text := Except.ok.inj htext
    split at hif
    · simp at hif
    · exact Option.some.inj hif
  have hcarried := h.sequential.stored_eq
  rw [hstored, hinitial, Option.map_some, parseText_maxKafka hmax] at hcarried
  rw [h.frontier_eq, ← hcarried]
  exact Snapshot.offset_eq_endOf ⟨text', rfl, hmax⟩ happends htp

end Steps

/-! ### Runs -/

/-- **Kafka batches are gapless and without duplicates.** The runs of one DAG over a Kafka
source do not overlap and start from the beginning; messages are appended to fixed
partitions; every step may raise and be retried, and snapshots may fail. In every
partition, no offset is read by two runs that saved their checkpoint, and the offsets that
one of them has read are those below the stored end offset. -/
theorem kafkaBatches_tile {dagId : Text} {info : ι → RunInfo} {broker : Broker}
    {store : Text → Option Text} (hcfg : cfg.LeavesOffsets)
    (hearliest : cfg.startingOffsets = "earliest".toList) (hstore : store dagId = none)
    {es : List (Event ι Broker)} {S : State ι Broker (List OffsetRange)} {ran : List ι}
    (h : exec (kafkaAppending dagId cfg countRecords info).step
      (State.start (kafkaAppending dagId cfg countRecords info) broker store) es = some S)
    (hwatch : exec nonOverlapping [] es = some ran) {tp : TopicPartition}
    (htp : tp ∈ cfg.subscribed S.source) :
    (∀ i j o, HasSaved S.log i → HasSaved S.log j → o ∈ offsetsRead S.log i tp →
      o ∈ offsetsRead S.log j tp → i = j) ∧
    ∀ text, S.store dagId = some text → ∃ stop, sparkOffset text tp.1 tp.2 = some stop ∧
      ∀ o, (∃! i, HasSaved S.log i ∧ o ∈ offsetsRead S.log i tp) ↔ 0 ≤ o ∧ o < stop := by
  have hinv : Appended cfg (kafkaAppending dagId cfg countRecords info) store dagId S.source S.log
      ran := by
    refine System.sequential_invariant
      (Appended cfg (kafkaAppending dagId cfg countRecords info) store dagId)
      (appended_nil broker) ?_ (fun hinv hi => hinv.start hi) ?_ h hwatch
    · intro src log ran next hinv hmoves
      exact hinv.of_appends (of_decide_eq_true hmoves)
    · intro src log ran i a hinv hallowed
      exact hinv.act rfl rfl hallowed
  have htakes (i : ι) (o : ℤ) : (HasSaved S.log i ∧ o ∈ offsetsRead S.log i tp) ↔
      Takes 0 (savedEnd S.log tp) ran i o :=
    hinv.mem_offsetsRead_iff hstore hcfg hearliest rfl htp
  refine ⟨fun i j o hi hj hread hread' => ?_, fun text htext => ?_⟩
  · exact hinv.forward.takes_unique ((htakes i o).mp ⟨hi, hread⟩) ((htakes j o).mp ⟨hj, hread'⟩)
  · have hstored : System.stored _ store S.log dagId = some text :=
      (congrFun (System.simulates_of_exec h).store_eq dagId).symm.trans htext
    refine ⟨_, hinv.frontier_eq_of_stored hstore htp hstored, fun o => ?_⟩
    simp only [htakes]
    constructor
    · rintro ⟨i, hi, -⟩
      exact hinv.forward.bounds_of_takes hi
    · rintro ⟨hnonneg, hlt⟩
      obtain ⟨i, hi⟩ := exists_takes hnonneg hlt
      exact ⟨i, hi, fun j hj => hinv.forward.takes_unique hj hi⟩

end Appending

/-! ### Two batches -/

/-- The runs of the DAG `events`, numbered. -/
def appendingSystem : System ℕ Broker (List OffsetRange) :=
  kafkaAppending "events".toList ordersEvents false fun _ => ⟨[], [], []⟩

/-- Two partitions with five messages each, and no stored checkpoint. -/
def twoPartitions : State ℕ Broker (List OffsetRange) :=
  State.start appendingSystem (.withPartitions 2 5) fun _ => none

/-- Two uneventful runs, with messages appended in between. -/
def twoBatches : List (Event ℕ Broker) :=
  (kafkaSource ordersEvents false).uneventful 1 .up ++ [.source (.withPartitions 2 9)] ++
    (kafkaSource ordersEvents false).uneventful 2 .up

/-- Two runs read the nine messages of a partition once. -/
theorem kafkaBatches_tile_twoBatches :
    ∃ S text, exec appendingSystem.step twoPartitions twoBatches = some S ∧
      S.store "events".toList = some text ∧ sparkOffset text "orders-events".toList 1 = some 9 ∧
      ∀ o, (∃! i, HasSaved S.log i ∧ o ∈ offsetsRead S.log i ("orders-events".toList, 1)) ↔
        0 ≤ o ∧ o < 9 := by
  have hrun : ((exec appendingSystem.step twoPartitions twoBatches).map fun S =>
      ((S.store "events".toList).bind fun text => sparkOffset text "orders-events".toList 1,
        decide
          ((("orders-events".toList, 1) : TopicPartition) ∈ ordersEvents.subscribed S.source))) =
      some (some 9, true) := by decide +kernel
  obtain ⟨S, hS, heq⟩ := Option.map_eq_some_iff.mp hrun
  obtain ⟨hstored, hsubscribed⟩ := Prod.mk.inj heq
  obtain ⟨text, htext, hoffset⟩ := Option.bind_eq_some_iff.mp hstored
  have hwatch : exec nonOverlapping [] twoBatches = some [2, 1] := by decide +kernel
  obtain ⟨stop, hstop, htile⟩ := (kafkaBatches_tile leavesOffsets_ordersEvents rfl rfl hS hwatch
    (of_decide_eq_true hsubscribed)).2 text htext
  obtain rfl : stop = 9 := Option.some.inj (hstop.symm.trans hoffset)
  exact ⟨S, text, hS, htext, hoffset, htile⟩

end BatchIngestion
