import BatchIngestion.Isolation
import BatchIngestion.KafkaOverlap
import BatchIngestion.Progress

/-!
# An added partition halts a Kafka pipeline

A run that resumes from a stored checkpoint names in `startingOffsets` the partitions of
an old snapshot. Once a partition has been added, Spark rejects these offsets, so the run
reads nothing and saves nothing, and the next run resumes from the same row. The pipeline
has no way out by itself: no run ever reads again, and the messages of the new partition
never land.
-/

namespace BatchIngestion

open Python Library

variable {ι : Type} {cfg : KafkaSourceConfig} {countRecords : Bool} {tp : TopicPartition}
  {v w : CheckpointValue}

/-- A snapshot from before a partition was added. -/
def Lacks (cfg : KafkaSourceConfig) (tp : TopicPartition) (v : CheckpointValue) : Prop :=
  ∃ b, Snapshot cfg b v ∧ tp ∉ cfg.subscribed b

/-- It does not name the partition. -/
theorem Lacks.offset_eq (h : Lacks cfg tp v) : v.offset tp = none := by
  obtain ⟨b, hb, hnot⟩ := h
  rw [hb.offset_eq, if_neg hnot]

/-- **Spark rejects a start from before the partition was added**, wherever the read ends. -/
theorem Lacks.not_kafkaRead (h : Lacks cfg tp v) (hcfg : cfg.LeavesOffsets) {broker : Broker}
    (htp : tp ∈ cfg.subscribed broker) {t : Option CheckpointValue} {ranges : List OffsetRange} :
    kafkaRead cfg broker (some v) t ≠ .ok ranges := by
  intro hread
  have hoffset := h.offset_eq
  obtain ⟨b, ⟨starting, rfl, hstarting⟩, -⟩ := h
  cases hformat : t.elim (.ok ("latest" : Text)) CheckpointValue.format with
  | error e =>
    have hoptions : offsetOptions cfg (some (.str starting)) t = .error e := by
      have hstart : (some (CheckpointValue.str starting)).elim (.ok cfg.startingOffsets)
        CheckpointValue.format = .ok starting := rfl
      rw [offsetOptions, hstart, hformat]
      rfl
    rw [kafkaRead, hoptions] at hread
    cases hread
  | ok ending =>
    rw [kafkaRead, hcfg.offsetOptions_eq rfl hformat, ok_bind] at hread
    have hstart := ((exists_offsetRanges_iff.mp ⟨ranges, hread⟩).1 tp htp).1
    rw [startOffset_maxKafka hstarting] at hstart
    have hnone : sparkOffset starting tp.1 tp.2 = none := hoffset
    simp [hnone] at hstart

/-- A read gives messages of subscribed partitions only. -/
theorem notMem_offsetsIn_of_kafkaRead {broker : Broker} {f t : Option CheckpointValue}
    {ranges : List OffsetRange} (h : kafkaRead cfg broker f t = .ok ranges)
    (htp : tp ∉ cfg.subscribed broker) (o : ℤ) : o ∉ offsetsIn ranges tp := by
  rintro ⟨range, hrange, rfl, -⟩
  obtain ⟨⟨starting, ending⟩, -, hranges⟩ := bind_eq_ok_iff.mp h
  exact htp ((mem_offsetRanges hranges).mp hrange).1

section Halt

variable [DecidableEq ι] {sys : System ι Broker (List OffsetRange)} {initial : Text → Option Text}
  {dagId : Text} {past : List (ι × Action Broker (List OffsetRange))}
  {s t : State ι Broker (List OffsetRange)}

/-- A run that has yet to finish its Spark task. -/
def Run.Early {β : Type} (run : Run β) : Prop := run.task = .init ∨ run.task = .sparkRun

omit [DecidableEq ι] in
/-- An event brings no run back to its first two tasks. -/
theorem System.early_of_step {σ β : Type} [DecidableEq ι] {sys : System ι σ β} {s t : State ι σ β}
    {e : Event ι σ} (hstep : sys.step s e = some t) {i : ι} (h : (t.runs i).Early) :
    (s.runs i).Early := by
  have hback {j : ι} {run : Run β} (hruns : t.runs = Function.update s.runs j run)
      (hrun : run.Early → (s.runs j).Early) : (s.runs i).Early := by
    rw [hruns] at h
    by_cases hj : i = j
    · subst hj
      rw [Function.update_self] at h
      exact hrun h
    · rwa [Function.update_of_ne hj] at h
  cases System.transition_of_step hstep with
  | source => exact h
  | @performed j outside step rest effect hfailed htodo heffect =>
    refine hback (j := j) rfl fun hrun => ?_
    have htask := (Step.gives_of_ok heffect).task_eq
    unfold Run.Early at *
    rwa [← htask]
  | @failed _ j => exact hback (j := j) rfl fun hrun => hrun
  | @retried j =>
    refine hback (j := j) rfl fun hrun => ?_
    unfold Run.restart Run.Early at *
    cases htask : (s.runs j).task <;> simp_all
  | @advanced j =>
    refine hback (j := j) rfl fun hrun => ?_
    unfold Run.advance Run.Early at *
    cases htask : (s.runs j).task <;> simp_all [Task.following]

/-! ### The invariant -/

/-- What stays so once a partition was added: everything that a run can resume from, or that
a run can still save, is from before. -/
structure Halted (cfg : KafkaSourceConfig) (tp : TopicPartition)
    (sys : System ι Broker (List OffsetRange)) (initial : Text → Option Text) (dagId : Text)
    (past : List (ι × Action Broker (List OffsetRange))) (s : State ι Broker (List OffsetRange)) :
    Prop where
  /-- The state agrees with its log. -/
  simulates : Simulates sys initial s
  /-- The tasks are in order. -/
  ordered : WellOrdered sys s.log
  /-- The partition is there. -/
  subscribed : tp ∈ cfg.subscribed s.source
  /-- The stored checkpoint lacks it. -/
  stored_lacks : ∃ text, s.store dagId = some text ∧ Lacks cfg tp (parseText text)
  /-- A run that may read has fetched a checkpoint that lacks it. -/
  from_lacks : ∀ i, (s.runs i).Early → ∀ f, lastFrom s.log i = some f →
    ∃ v, f = some v ∧ Lacks cfg tp v
  /-- A run that has read has computed a checkpoint that lacks it. -/
  to_lacks : ∀ i source b w, (i, .read source b) ∈ s.log → lastTo s.log i = some (some w) →
    Lacks cfg tp w
  /-- Nothing was read since. -/
  reads : ∀ i source b, (i, .read source b) ∈ s.log → (i, .read source b) ∈ past

/-- **Every event leaves the pipeline halted.** -/
theorem Halted.step (h : Halted cfg tp sys initial dagId past s) (hcfg : cfg.LeavesOffsets)
    (hdag : ∀ i, (sys.dag i).dagId = dagId)
    (hsource : ∀ i, (sys.dag i).source = kafkaSource cfg countRecords)
    (hmoves : ∀ {vs old next}, sys.moves vs old next = true → cfg.Grows old next)
    {e : Event ι Broker} (hstep : sys.step s e = some t) :
    Halted cfg tp sys initial dagId past t := by
  obtain ⟨hsim, hledger⟩ := sys.step_refines h.simulates hstep
  have hearly {i : ι} (hi : (t.runs i).Early) : (s.runs i).Early := System.early_of_step hstep hi
  cases hledger with
  | moved hevent hmove hnext hlog =>
    subst hevent
    obtain ⟨-, rfl⟩ := System.step_source_eq_some.mp hstep
    exact { h with
      simulates := hsim
      subscribed := hmoves hmove tp h.subscribed }
  | silent hactor hsame hlog =>
    have hstore : t.store = s.store := by rw [hsim.store_eq, h.simulates.store_eq, hlog]
    exact {
      simulates := hsim
      ordered := hlog ▸ h.ordered
      subscribed := hsame ▸ h.subscribed
      stored_lacks := hstore ▸ h.stored_lacks
      from_lacks := fun i hi f hf => h.from_lacks i (hearly hi) f (hlog ▸ hf)
      to_lacks := fun i source b w hmem hto => h.to_lacks i source b w (hlog ▸ hmem) (hlog ▸ hto)
      reads := fun i source b hmem => h.reads i source b (hlog ▸ hmem) }
  | @acted j a hactor hsame hlog hallowed hperforms =>
    have hread : ∀ source b, a ≠ .read source b := by
      rintro source b rfl
      obtain ⟨step, hmem, -, rest, -, -, htodo⟩ := hperforms.resolve_left (by simp [Action.steps])
      have htask : (s.runs j).task = .sparkRun := by
        rw [(h.simulates.tracks j).task_eq htodo]
        simp only [Action.steps, List.mem_cons, List.not_mem_nil, or_false] at hmem
        rcases hmem with rfl | rfl <;> rfl
      cases hallowed with
      | read _ hfrom _ hread =>
        obtain ⟨v, rfl, hv⟩ := h.from_lacks j (.inr htask) _ hfrom
        rw [hsource] at hread
        exact hv.not_kafkaRead hcfg h.subscribed hread
    have hreads {i : ι} {source : Broker} {b : List OffsetRange}
        (hmem : (i, .read source b) ∈ t.log) : (i, .read source b) ∈ s.log := by
      rw [hlog] at hmem
      rcases did_cons.mp hmem with ⟨-, ha⟩ | hmem
      · exact absurd ha (hread source b)
      · exact hmem
    have hto {i : ι} {source : Broker} {b : List OffsetRange} {w : CheckpointValue}
        (hmem : (i, .read source b) ∈ s.log) (hw : lastTo t.log i = some (some w)) :
        Lacks cfg tp w := by
      rw [hlog, hallowed.lastTo_cons (h.ordered.read_init i source b hmem)] at hw
      exact h.to_lacks i source b w hmem hw
    have hordered : WellOrdered sys t.log := hlog ▸ h.ordered.cons hallowed
    exact {
      simulates := hsim
      ordered := hordered
      subscribed := hsame ▸ h.subscribed
      stored_lacks := by
        by_cases ha : ∃ text, a = .saved text
        · obtain ⟨text, rfl⟩ := ha
          have hmem : (j, .saved text) ∈ t.log := hlog ▸ List.mem_cons_self
          refine ⟨text, ?_, ?_⟩
          · rw [hsim.store_eq, hlog, System.stored_saved, hdag, Function.update_self]
          · -- the run that saves has read, so its snapshot is from before
            obtain ⟨b, hb⟩ := hordered.spark_landed j (hordered.saved_spark j text hmem)
            obtain ⟨source, hsrc⟩ := hordered.landed_read j b hb (by rw [hsource]; rfl)
            exact hto (hreads hsrc) (hordered.parseText_of_saved hmem)
        · rw [hsim.store_eq, hlog, sys.stored_cons_of_ne initial j fun text h' => ha ⟨text, h'⟩,
            ← h.simulates.store_eq]
          exact h.stored_lacks
      from_lacks := fun i hi f hf => by
        rw [hlog] at hf
        rcases hallowed.lastFrom_cases hf with ⟨-, -, hrow⟩ | hf
        · obtain ⟨text, htext, hlacks⟩ := h.stored_lacks
          rw [parseRow_text, hdag, ← h.simulates.store_eq, htext] at hrow
          exact ⟨_, (Except.ok.inj hrow).symm, hlacks⟩
        · exact h.from_lacks i (hearly hi) f hf
      to_lacks := fun i source b w hmem hw => hto (hreads hmem) hw
      reads := fun i source b hmem => h.reads i source b (hreads hmem) }

/-! ### Runs -/

/-- What is from before lacks a partition that was added. -/
theorem Lacks.of_grows {b broker : Broker} (hv : Snapshot cfg b v) (hgrows : cfg.Grows b broker)
    (htp : tp ∉ cfg.subscribed broker) : Lacks cfg tp v :=
  ⟨b, hv, fun hmem => htp (hgrows tp hmem)⟩

variable {info : ι → RunInfo} {broker next : Broker} {store : Text → Option Text}
  {es fs : List (Event ι Broker)}

/-- **An added partition halts the pipeline.** The runs of one DAG over a Kafka source have
interleaved in any way and have stored a checkpoint, and the runs that started without one are
through with their Spark task. If a partition is added then, no run reads anything in whatever
comes after, no message of the partition ever lands, and the stored checkpoint, whichever it
is, never names the partition. -/
theorem addedPartition_halts (hcfg : cfg.LeavesOffsets)
    (hstore : ∀ text, store dagId = some text →
      ∃ b, maxKafka cfg.topic (.ok b) = .ok text ∧ cfg.Grows b broker)
    (h : exec (kafkaGrowing dagId cfg countRecords info).step
      (State.start (kafkaGrowing dagId cfg countRecords info) broker store) es = some s)
    (hstored : s.store dagId ≠ none)
    (hfirst : ∀ i, lastFrom s.log i = some none → ¬ (s.runs i).Early)
    (htp : tp ∉ cfg.subscribed s.source) (hadded : tp ∈ cfg.subscribed next)
    (hnext : exec (kafkaGrowing dagId cfg countRecords info).step s (.source next :: fs) = some t) :
    (∀ i source b, (i, .read source b) ∈ t.log → (i, .read source b) ∈ s.log) ∧
      landedOffsets t.log tp = ∅ ∧
      ∃ text, t.store dagId = some text ∧ (parseText text).offset tp = none := by
  set sys := kafkaGrowing dagId cfg countRecords info
  have hpast : Past cfg cfg.Grows sys store dagId s.source s.log :=
    past_of_exec (.refl cfg) (fun h h' => h.trans h') (fun hmoves => of_decide_eq_true hmoves)
      hstore h
  have hsim := System.simulates_of_exec h
  obtain ⟨u, hu, hexec⟩ := exec_cons_eq_some.mp hnext
  obtain ⟨-, rfl⟩ := System.step_source_eq_some.mp hu
  have hhalted : Halted cfg tp sys store dagId s.log { s with source := next } := {
    simulates := ⟨hsim.store_eq, hsim.tracks⟩
    ordered := hpast.ordered
    subscribed := hadded
    stored_lacks := by
      obtain ⟨text, htext⟩ := Option.ne_none_iff_exists'.mp hstored
      obtain ⟨b, hb, hgrows⟩ := hpast.stored text (hsim.store_eq ▸ htext)
      exact ⟨text, htext, .of_grows hb hgrows htp⟩
    from_lacks := fun i hi f hf => by
      cases f with
      | none => exact absurd hi (hfirst i hf)
      | some v =>
        obtain ⟨b, hb, hgrows⟩ := hpast.fetched i v hf
        exact ⟨v, rfl, .of_grows hb hgrows htp⟩
    to_lacks := fun i source b w _ hw => by
      obtain ⟨b, hb, hgrows⟩ := hpast.reported w (mem_reportedIn_of_lastTo hw)
      exact .of_grows hb hgrows htp
    reads := fun i source b hmem => hmem }
  have hend : Halted cfg tp sys store dagId s.log t :=
    exec_invariant (fun hinv hstep => hinv.step hcfg (fun _ => rfl) (fun _ => rfl)
      (fun hmoves => of_decide_eq_true hmoves) hstep) hhalted hexec
  refine ⟨hend.reads, Set.eq_empty_of_forall_notMem ?_, ?_⟩
  · rintro o ⟨i, b, hlanded, ho⟩
    obtain ⟨source, hread⟩ := hend.ordered.landed_read i b hlanded rfl
    obtain ⟨f, w, -, -, hb⟩ := hend.ordered.read_window i source b hread
    have hbefore := hpast.read i source b (hend.reads i source b hread)
    exact notMem_offsetsIn_of_kafkaRead hb (fun hmem => htp (hbefore tp hmem)) o ho
  · obtain ⟨text, htext, hlacks⟩ := hend.stored_lacks
    exact ⟨text, htext, hlacks.offset_eq⟩

end Halt

/-! ### A halted pipeline -/

/-- A run up to its rejected read, and its retry up to the same one. -/
def rejectedRun : List (Event ℕ Broker) :=
  ((kafkaSource ordersEvents false).uneventful 2 .up).take 20 ++ .retry 2 ::
    List.replicate 10 (.perform 2 .up)

/-- The first run stores a checkpoint, and then the second one is rejected twice. -/
theorem exec_rejectedRun :
    ∃ s t, exec growingSystem.step onePartition
        ((kafkaSource ordersEvents false).uneventful 1 .up) = some s ∧
      exec growingSystem.step s (.source (.withPartitions 2 9) :: rejectedRun) = some t ∧
      (∀ entry ∈ s.log, entry.1 = 1) ∧ (s.runs 1).task = .done ∧
      s.store "events".toList ≠ none ∧
      ("orders-events".toList, 1) ∉ ordersEvents.subscribed s.source := by
  have hrun : ((exec growingSystem.step onePartition
      ((kafkaSource ordersEvents false).uneventful 1 .up)).bind fun s =>
        if (s.log.all fun entry => entry.1 = 1) ∧ (s.runs 1).task = .done ∧
          s.store "events".toList ≠ none ∧
          ("orders-events".toList, 1) ∉ ordersEvents.subscribed s.source
        then (exec growingSystem.step s (.source (.withPartitions 2 9) :: rejectedRun)).map
          fun _ => ()
        else none) = some () := by decide +kernel
  obtain ⟨s, hs, hfacts⟩ := Option.bind_eq_some_iff.mp hrun
  split at hfacts
  · rename_i hall
    obtain ⟨hlog, hrest⟩ := hall
    obtain ⟨t, ht, -⟩ := Option.map_eq_some_iff.mp hfacts
    exact ⟨s, t, hs, ht, by simpa using hlog, hrest⟩
  · simp at hfacts

/-- The messages of the added partition have not landed after the retry. -/
theorem addedPartition_halts_rejectedRun :
    ∃ s t, exec growingSystem.step onePartition
        ((kafkaSource ordersEvents false).uneventful 1 .up) = some s ∧
      exec growingSystem.step s (.source (.withPartitions 2 9) :: rejectedRun) = some t ∧
      landedOffsets t.log ("orders-events".toList, 1) = ∅ := by
  obtain ⟨s, t, hs, ht, hlog, htask, hstored, htp⟩ := exec_rejectedRun
  have hfirst (i : ℕ) (hi : lastFrom s.log i = some none) : ¬ (s.runs i).Early := by
    obtain ⟨a, hmem, -⟩ := exists_mem_of_newest hi
    obtain rfl : i = 1 := hlog _ hmem
    simp [Run.Early, htask]
  have hadded : ("orders-events".toList, 1) ∈ ordersEvents.subscribed (.withPartitions 2 9) := by
    decide +kernel
  obtain ⟨-, hempty, -⟩ := addedPartition_halts leavesOffsets_ordersEvents (by simp) hs hstored
    hfirst htp hadded ht
  exact ⟨s, t, hs, ht, hempty⟩

end BatchIngestion
