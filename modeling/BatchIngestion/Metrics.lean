import BatchIngestion.HandOff
import BatchIngestion.Progress

/-!
# What a success metric says

The metric task gets the record count from XCom, where the Spark task has left it
before the write. Attempts are retried, XCom entries are cleared, batches are read
again: in the end the count that is published is the size of the batch that the run
has landed, and that batch is what the source held in the window that the same metric
names.
-/

namespace BatchIngestion

open Python Library

variable {ι σ β : Type}

/-- The Spark task counts the records: the source is read, and `count_records` is set. -/
def Source.counts (source : Source σ β) : Bool := !source.config.isPath && source.countRecords

/-- A task that counts evaluates its DataFrame in the count, any other one that reads in a
scan. -/
theorem Source.evaluates_iff (source : Source σ β) :
    (.countRecords ∈ source.steps .sparkRun ↔ source.counts = true) ∧
      (source.config.isPath = false → .write ∈ source.steps .sparkRun) := by
  unfold Source.steps Source.counts
  cases source.config.isPath <;> cases source.countRecords <;> decide

section Counting

variable [DecidableEq ι]

/-- What the log says about the record count of a run whose Spark task has succeeded. -/
def Counted (source : Source σ β) (log : List (ι × Action σ β)) (i : ι) (count : Option ℕ) :
    Prop :=
  (source.config.isPath = false → ∃ b, lastBatch log i = some b ∧ Landed log i b) ∧
    (source.counts = true → ∃ b, lastBatch log i = some b ∧ count = some (source.size b)) ∧
    (source.counts = false → count = none)

/-- What a run knows about its record count. -/
structure Run.Counts (source : Source σ β) (log : List (ι × Action σ β)) (i : ι) (run : Run β) :
    Prop where
  /-- The init task has no record count. -/
  uncounted : run.task = .init → run.recordCount = none
  /-- The count is the size of the evaluated DataFrame. -/
  size_eq : run.task = .sparkRun → ∀ n, run.recordCount = some n →
    ∃ b, run.batch = some b ∧ n = source.size b
  /-- A Spark task that counts has counted when it is past the count. -/
  counted : run.task = .sparkRun → source.counts = true →
    .countRecords ∈ run.todo ∨ run.recordCount ≠ none
  /-- Any other one does not count. -/
  not_counted : run.task = .sparkRun → source.counts = false → run.recordCount = none
  /-- The evaluated DataFrame has landed when the task is past the write. -/
  landed : run.task = .sparkRun → source.config.isPath = false →
    .write ∈ run.todo ∨ ∃ b, run.batch = some b ∧ Landed log i b
  /-- The later tasks have the count of the landed batch. -/
  later : run.task = .metricPush ∨ run.task = .done → Counted source log i run.recordCount
  /-- The metric task has pulled it. -/
  pulled : ∀ p, run.pulled = some p → p.recordCount = run.recordCount
  /-- Every metric that was published as a success carries it. -/
  published : ∀ payload : Payload, (i, .published payload) ∈ log → payload.IsSuccess →
    (run.task = .metricPush ∨ run.task = .done) ∧
      Dict.get? payload ("record_count" : Text) = run.recordCount.map fun n => .int (n : ℤ)

/-- The record count of a metric of the DAG factory is the pulled one. -/
theorem DagFactory.get?_recordCount {pipeline dagId stopTime : Text} {info : RunInfo}
    {pulled : Pulled} :
    Dict.get? ((DagFactory.metricPush pipeline).payload dagId stopTime info pulled)
      ("record_count" : Text) = pulled.recordCount.map fun n => .int (n : ℤ) := by
  have hbase (payload : Payload) (value : Option PayloadValue)
      (hnone : Dict.get? payload ("record_count" : Text) = none) :
      Dict.get? (MetricPushOperator.addOptional payload ("record_count" : Text) value)
        ("record_count" : Text) = value := by
    cases value with
    | none => exact hnone
    | some v => rw [MetricPushOperator.addOptional, Option.elim_some, Dict.get?_set, if_pos rfl]
  unfold MetricPushOperator.payload
  rw [Dict.get?_update_of_notMem (notMem_extraPayload (by decide +kernel))]
  refine (hbase _ _ ?_).trans (by cases pulled.recordCount <;> rfl)
  rw [MetricPushOperator.get?_addOptional (by decide +kernel),
    MetricPushOperator.get?_addOptional (by decide +kernel)]
  rfl

section Steps

variable {sys : System ι σ β} {source : Source σ β} {log : List (ι × Action σ β)} {i : ι}
  {run : Run β}

/-- What the log says about a record count does not change without another read of the run. -/
theorem Counted.cons {count : Option ℕ} (h : Counted source log i count) {j : ι} {a : Action σ β}
    (hread : j ≠ i ∨ a.batch? = none) : Counted source ((j, a) :: log) i count := by
  have hbatch : lastBatch ((j, a) :: log) i = lastBatch log i := by
    rcases hread with hne | hnone
    · exact newest_cons_of_ne _ hne a log
    · exact newest_cons_of_none hnone i j log
  obtain ⟨hlanded, hcounts, hnot⟩ := h
  refine ⟨fun hpath => ?_, ?_, hnot⟩
  · obtain ⟨b, hlast, hb⟩ := hlanded hpath
    exact ⟨b, hbatch.trans hlast, List.mem_cons_of_mem _ hb⟩
  · rw [hbatch]
    exact hcounts

/-- What a run knows stays true while the log grows without another read or metric of it. -/
theorem Run.Counts.cons (h : run.Counts source log i) {j : ι} {a : Action σ β}
    (hread : j ≠ i ∨ a.batch? = none ∨ run.task = .sparkRun)
    (hpublished : ∀ payload : Payload, (j, a) = (i, .published payload) → payload.IsSuccess →
      (run.task = .metricPush ∨ run.task = .done) ∧
        Dict.get? payload ("record_count" : Text) = run.recordCount.map fun n => .int (n : ℤ)) :
    run.Counts source ((j, a) :: log) i :=
  { h with
    landed := fun htask hpath => (h.landed htask hpath).imp_right fun ⟨b, hb, hlanded⟩ =>
      ⟨b, hb, List.mem_cons_of_mem _ hlanded⟩
    later := fun htask => (h.later htask).cons (hread.imp_right fun hread =>
      hread.resolve_right fun hspark => by simp [hspark] at htask)
    published := fun payload hmem hsuccess => by
      rcases List.mem_cons.mp hmem with heq | hmem
      · exact hpublished payload heq.symm hsuccess
      · exact h.published payload hmem hsuccess }

/-- A run that drops a step that neither counts nor writes knows the same. -/
theorem Run.Counts.pop (h : run.Counts source log i) {step : Step} {rest : List Step}
    (htodo : run.todo = step :: rest) (hcount : step ≠ .countRecords)
    (hwrite : step ≠ .write ∨ ∃ b, run.batch = some b ∧ Landed log i b) :
    Run.Counts source log i { run with todo := rest } :=
  { h with
    counted := fun htask hcounts => (h.counted htask hcounts).imp_left fun hmem => by
      rw [htodo] at hmem
      exact (List.mem_cons.mp hmem).resolve_left (Ne.symm hcount)
    landed := fun htask hpath => by
      rcases h.landed htask hpath with hmem | hlanded
      · rcases hwrite with hne | hlanded
        · rw [htodo] at hmem
          exact .inl ((List.mem_cons.mp hmem).resolve_left (Ne.symm hne))
        · exact .inr hlanded
      · exact .inr hlanded }

/-- A write follows an evaluation, and a scan comes instead of a count. -/
theorem Source.rest_of_evaluates {step : Step} {rest : List Step}
    (hstep : step = .countRecords ∨ step = .scan)
    (h : step :: rest <:+ source.steps .sparkRun) :
    .write ∈ rest ∧ source.counts = decide (step = .countRecords) := by
  unfold Source.steps at h
  unfold Source.counts
  rcases hstep with rfl | rfl <;> cases hpath : source.config.isPath <;>
    cases hcount : source.countRecords <;> simp [hpath, hcount, List.suffix_cons_iff] at h ⊢ <;>
    simp [h]

/-- The evaluation of the DataFrame starts over with the record count. -/
theorem Run.Counts.evaluate (h : run.Counts source log i) (htracks : Tracks sys log i run)
    (hsource : (sys.dag i).source = source) {step : Step} {rest : List Step}
    (htodo : run.todo = step :: rest) (hstep : step = .countRecords ∨ step = .scan) {state : σ}
    {b : β} {count : Option ℕ}
    (hcount : count = if step = .countRecords then some (source.size b) else run.recordCount) :
    Run.Counts source ((i, .read state b) :: log) i
      { run with batch := some b, recordCount := count, todo := rest } := by
  have htask : run.task = .sparkRun :=
    (htracks.task_eq htodo).trans (by rcases hstep with rfl | rfl <;> rfl)
  have hsuffix := htracks.suffix
  rw [htodo, htask, hsource] at hsuffix
  obtain ⟨hwrite, hcounts⟩ := Source.rest_of_evaluates hstep hsuffix
  have hpublished : ∀ payload : Payload, (i, .published payload) ∈ log → ¬ payload.IsSuccess := by
    intro payload hmem hsuccess
    rcases (h.published payload hmem hsuccess).1 with hlater | hlater <;> simp [htask] at hlater
  rcases hstep with rfl | rfl
  · obtain rfl : count = some (source.size b) := by simpa using hcount
    exact {
      uncounted := fun hinit => by simp [htask] at hinit
      size_eq := fun _ n hn => ⟨b, rfl, (Option.some.inj hn).symm⟩
      counted := fun _ _ => .inr (by simp)
      not_counted := fun _ hnot => by simp [hcounts] at hnot
      landed := fun _ _ => .inl hwrite
      later := fun hlater => by simp [htask] at hlater
      pulled := fun p hp => by simpa [htask] using (htracks.pulled_logged p hp).1
      published := fun payload hmem hsuccess => by
        exact absurd hsuccess (hpublished payload (by simpa using hmem)) }
  · have hnone : run.recordCount = none := h.not_counted htask (by simpa using hcounts)
    obtain rfl : count = none := by simpa [hnone] using hcount
    exact {
      uncounted := fun hinit => by simp [htask] at hinit
      size_eq := fun _ n hn => by simp at hn
      counted := fun _ hyes => by simp [hcounts] at hyes
      not_counted := fun _ _ => rfl
      landed := fun _ _ => .inl hwrite
      later := fun hlater => by simp [htask] at hlater
      pulled := fun p hp => by simpa [htask] using (htracks.pulled_logged p hp).1
      published := fun payload hmem hsuccess => by
        exact absurd hsuccess (hpublished payload (by simpa using hmem)) }

/-- The metric task of the DAG factory pulls the record count as it is. -/
theorem DagFactory.recordCount_of_pull {dagId : Text} {xcom : Option Xcom} {count : Option ℕ}
    {p : Pulled} (h : (DagFactory.metricPush dagId).pull xcom count = .ok p) :
    p.recordCount = count := by
  cases xcom with
  | none =>
    obtain rfl := Except.ok.inj h
    rfl
  | some x =>
    obtain ⟨textFrom, -, h⟩ := bind_eq_ok_iff.mp h
    obtain ⟨textTo, -, h⟩ := bind_eq_ok_iff.mp h
    obtain rfl := Except.ok.inj h
    rfl

/-- **A performed step keeps what a run knows about its record count.** -/
theorem Run.Counts.perform (h : run.Counts (sys.dag i).source log i)
    (htracks : Tracks sys log i run)
    {step : Step} {rest : List Step} (htodo : run.todo = step :: rest) {dagId : Text}
    (hmetric : (sys.dag i).metricPush = DagFactory.metricPush dagId) {info : RunInfo}
    {outside : Outside} {state : σ} {row : Option Text} {effect : Effect σ β}
    (hgives : step.Gives (sys.dag i) info outside state row run effect) :
    Run.Counts (sys.dag i).source (extendLog log i effect.emitted) i
      { effect.run with todo := rest } := by
  have hsame {a : Action σ β} (hbatch : a.batch? = none) (hpublished : ∀ p, a ≠ .published p) :
      run.Counts (sys.dag i).source ((i, a) :: log) i :=
    h.cons (.inr (.inl hbatch)) fun payload heq => absurd (Prod.mk.inj heq).2 (hpublished payload)
  cases hgives with
  | fetchedFrom =>
    exact { (hsame rfl (by simp)).pop htodo (by decide) (.inl (by decide)) with }
  | fetchedTo =>
    exact { (hsame rfl (by simp)).pop htodo (by decide) (.inl (by decide)) with }
  | pushed | decoded => exact { h.pop htodo (by decide) (.inl (by decide)) with }
  | counted => exact h.evaluate htracks rfl htodo (.inl rfl) rfl
  | scanned => exact h.evaluate htracks rfl htodo (.inr rfl) rfl
  | written hb =>
    exact (hsame rfl (by simp)).pop htodo (by decide) (.inr ⟨_, hb, List.mem_cons_self⟩)
  | copied => exact (hsame rfl (by simp)).pop htodo (by decide) (.inl (by decide))
  | pulled hp =>
    rw [hmetric] at hp
    exact { h.pop htodo (by decide) (.inl (by decide)) with
      pulled := fun p' hp' => by
        obtain rfl := Option.some.inj hp'
        exact DagFactory.recordCount_of_pull hp }
  | @published p hp =>
    refine (h.cons (.inr (.inl rfl)) fun payload heq _ => ?_).pop htodo (by decide)
      (.inl (by decide))
    obtain rfl : _ = payload := Action.published.inj (Prod.mk.inj heq).2
    refine ⟨.inl (htracks.task_eq htodo), ?_⟩
    rw [hmetric, DagFactory.get?_recordCount, h.pulled p hp]
  | @saved p text =>
    cases text with
    | none => exact h.pop htodo (by decide) (.inl (by decide))
    | some text => exact (hsame rfl (by simp)).pop htodo (by decide) (.inl (by decide))
  | nothing hquiet =>
    exact h.pop htodo (fun hcount => by simp [hcount, Step.quiet] at hquiet)
      (.inl fun hwrite => by simp [hwrite, Step.quiet] at hquiet)

/-- A retried attempt starts over with its record count. -/
theorem Run.Counts.restart (h : run.Counts (sys.dag i).source log i) :
    Run.Counts (sys.dag i).source log i (run.restart (sys.dag i)) := by
  have hpublished (hearly : run.task = .init ∨ run.task = .sparkRun) (payload : Payload)
      (hmem : (i, .published payload) ∈ log) : ¬ payload.IsSuccess := by
    intro hsuccess
    rcases hearly with htask | htask <;> simpa [htask] using (h.published payload hmem hsuccess).1
  obtain ⟨hcounts, hwrites⟩ := (sys.dag i).source.evaluates_iff
  unfold Run.restart
  cases htask : run.task with
  | init =>
    exact ⟨fun _ => rfl, by simp, by simp, by simp, by simp, by simp, by simp,
      fun payload hmem hsuccess => absurd hsuccess (hpublished (.inl htask) payload hmem)⟩
  | sparkRun =>
    exact ⟨by simp, by simp, fun _ hyes => .inl (hcounts.mpr hyes), by simp,
      fun _ hpath => .inl (hwrites hpath), by simp, by simp,
      fun payload hmem hsuccess => absurd hsuccess (hpublished (.inr htask) payload hmem)⟩
  | metricPush =>
    exact ⟨by simp, by simp, by simp, by simp, by simp, fun _ => h.later (.inl htask), by simp,
      fun payload hmem hsuccess => ⟨.inl rfl, (h.published payload hmem hsuccess).2⟩⟩
  | done => exact h

/-- The next task starts with the record count of the landed batch. -/
theorem Run.Counts.advance (h : run.Counts (sys.dag i).source log i)
    (htracks : Tracks sys log i run) (htodo : run.todo = []) :
    Run.Counts (sys.dag i).source ((i, .finished run.task) :: log) i
      (run.advance (sys.dag i)) := by
  obtain ⟨hcounts, hwrites⟩ := (sys.dag i).source.evaluates_iff
  have hold (payload : Payload) (hmem : (i, .published payload) ∈ (i, .finished run.task) :: log)
      (hsuccess : payload.IsSuccess) := h.published payload (by simpa using hmem) hsuccess
  unfold Run.advance
  cases htask : run.task with
  | init =>
    have hnone := h.uncounted htask
    rw [htask] at hold
    exact ⟨by simp [Task.following], by simp [hnone], fun _ hyes => .inl (hcounts.mpr hyes),
      fun _ _ => hnone, fun _ hpath => .inl (hwrites hpath), by simp [Task.following], by simp,
      fun payload hmem hsuccess => by simpa using (hold payload hmem hsuccess).1⟩
  | sparkRun =>
    rw [htask] at hold
    have hlater : Counted (sys.dag i).source log i run.recordCount := by
      refine ⟨fun hpath => ?_, fun hyes => ?_, h.not_counted htask⟩
      · obtain ⟨b, hb, hlanded⟩ := (h.landed htask hpath).resolve_left (by simp [htodo])
        exact ⟨b, (htracks.batch_logged b hb).2, hlanded⟩
      · have hcounted := (h.counted htask hyes).resolve_left (by simp [htodo])
        obtain ⟨n, hn⟩ := Option.ne_none_iff_exists'.mp hcounted
        obtain ⟨b, hb, rfl⟩ := h.size_eq htask n hn
        exact ⟨b, (htracks.batch_logged b hb).2, hn⟩
    exact ⟨by simp [Task.following], by simp [Task.following], by simp [Task.following],
      by simp [Task.following], by simp [Task.following], fun _ => hlater.cons (.inr rfl), by simp,
      fun payload hmem hsuccess => by simpa using (hold payload hmem hsuccess).1⟩
  | metricPush =>
    rw [htask] at hold
    exact ⟨by simp [Task.following], by simp [Task.following], by simp [Task.following],
      by simp [Task.following], by simp [Task.following],
      fun _ => (h.later (.inl htask)).cons (.inr rfl), by simp,
      fun payload hmem hsuccess => ⟨.inr rfl, (hold payload hmem hsuccess).2⟩⟩
  | done =>
    rw [htask] at hold
    exact ⟨by simp [Task.following], by simp [Task.following], by simp [Task.following],
      by simp [Task.following], by simp [Task.following],
      fun _ => (h.later (.inr htask)).cons (.inr rfl), by simp,
      fun payload hmem hsuccess => ⟨.inr rfl, (hold payload hmem hsuccess).2⟩⟩

end Steps

section System

variable {dagId : ι → Text} {source : ι → Source σ β} {info : ι → RunInfo}
  {moves : List CheckpointValue → σ → σ → Bool} {s t : State ι σ β}

/-- What all runs know about their record counts. -/
def State.Counts (source : ι → Source σ β) (s : State ι σ β) : Prop :=
  ∀ i, (s.runs i).Counts (source i) s.log i

/-- The runs know about their record counts when one of them acts and knows about its own. -/
theorem State.Counts.update (h : s.Counts source) {i : ι} {run : Run β} {a : Option (Action σ β)}
    (hruns : t.runs = Function.update s.runs i run) (hlog : t.log = extendLog s.log i a)
    (hrun : run.Counts (source i) t.log i) : t.Counts source := by
  intro j
  rw [hruns]
  by_cases hj : j = i
  · subst hj
    rw [Function.update_self]
    exact hrun
  · rw [Function.update_of_ne hj, hlog]
    cases a with
    | none => exact h j
    | some a =>
      exact (h j).cons (.inl (Ne.symm hj)) fun payload heq =>
        absurd (Prod.mk.inj heq).1 (Ne.symm hj)

/-- Every event keeps what the runs know about their record counts. -/
theorem State.Counts.step {initial : Text → Option Text} {e : Event ι σ} (h : s.Counts source)
    (hs : Simulates (DagFactory.dags dagId source info moves) initial s)
    (hstep : (DagFactory.dags dagId source info moves).step s e = some t) :
    t.Counts source := by
  -- the source of a run is the one of its DAG
  have hcounts (i : ι) :
      (s.runs i).Counts ((DagFactory.dags dagId source info moves).dag i).source s.log i := h i
  cases System.transition_of_step hstep with
  | source => exact h
  | @performed i outside step rest effect hfailed htodo heffect =>
    exact h.update rfl rfl ((hcounts i).perform (hs.tracks i) htodo rfl (Step.gives_of_ok heffect))
  | @failed _ i error metricUp hactor =>
    have hrun : Run.Counts (source i) s.log i { s.runs i with failed := true } := { h i with }
    unfold System.fail
    dsimp only
    split
    · refine h.update (a := some _) rfl rfl
        (hrun.cons (.inr (.inl rfl)) fun payload heq hsuccess => ?_)
      obtain rfl : _ = payload := Action.published.inj (Prod.mk.inj heq).2
      exact absurd hsuccess not_isSuccess_failurePayload
    · exact h.update (a := none) rfl rfl hrun
  | @retried i => exact h.update (a := none) rfl rfl (hcounts i).restart
  | @advanced i htodo htask =>
    exact h.update (a := some _) rfl rfl ((hcounts i).advance (hs.tracks i) htodo)

/-- The runs before their first steps have no record counts. -/
theorem State.counts_start (initial : σ) (store : Text → Option Text) :
    (State.start (DagFactory.dags dagId source info moves) initial store).Counts source :=
  fun i => ⟨fun _ => rfl, by simp [start], by simp [start], by simp [start], by simp [start],
    by simp [start], by simp [start], by simp [start]⟩

/-- The runs know about their record counts in every reachable state. -/
theorem State.counts_of_exec {initial : σ} {store : Text → Option Text} {es : List (Event ι σ)}
    (h : exec (DagFactory.dags dagId source info moves).step
      (State.start (DagFactory.dags dagId source info moves) initial store) es = some s) :
    s.Counts source := by
  have hkeep {u v : State ι σ β} {e : Event ι σ}
      (hu : Simulates (DagFactory.dags dagId source info moves) store u ∧ u.Counts source)
      (hstep : (DagFactory.dags dagId source info moves).step u e = some v) :
      Simulates (DagFactory.dags dagId source info moves) store v ∧ v.Counts source :=
    ⟨(System.step_refines hu.1 hstep).1, hu.2.step hu.1 hstep⟩
  exact (exec_invariant hkeep ⟨simulates_start _ _ _, State.counts_start initial store⟩ h).2

/-- **A success metric tells the truth.** Any number of runs of any number of DAGs of the DAG
factory interleave, fail and are retried in any way. Every success metric that a run has
published names its DAG, its run and the texts of its two checkpoints. If the source is read, the
run has landed a batch, the one it read last, which is the answer of the source to exactly this
window; and the metric carries a record count exactly if the DAG counts, namely the size of this
batch. -/
theorem metrics_truthful {initial : σ} {store : Text → Option Text} {es : List (Event ι σ)}
    (h : exec (DagFactory.dags dagId source info moves).step
      (State.start (DagFactory.dags dagId source info moves) initial store) es = some s) {i : ι}
    {payload : Payload} (hmem : (i, .published payload) ∈ s.log) (hsuccess : payload.IsSuccess) :
    ∃ f t textFrom textTo, lastFrom s.log i = some f ∧ lastTo s.log i = some t ∧
      checkpointText (serialiseCheckpoint f) = .ok textFrom ∧
      checkpointText (serialiseCheckpoint t) = .ok textTo ∧
      Dict.get? payload ("dag_id" : Text) = some (.str (dagId i)) ∧
      Dict.get? payload ("run_id" : Text) = some (.str (info i).runId) ∧
      Dict.get? payload ("checkpoint_from" : Text) = some (.ofText textFrom) ∧
      Dict.get? payload ("checkpoint_to" : Text) = some (.ofText textTo) ∧
      ((source i).config.isPath = false → ∃ b state, lastBatch s.log i = some b ∧
        Landed s.log i b ∧ (i, .read state b) ∈ s.log ∧ (source i).read state f t = .ok b) ∧
      ((source i).counts = true → ∃ b, lastBatch s.log i = some b ∧
        Dict.get? payload ("record_count" : Text) = some (.int ((source i).size b : ℤ))) ∧
      ((source i).counts = false → Dict.get? payload ("record_count" : Text) = none) := by
  have hcounts := State.counts_of_exec h
  have hordered := System.wellOrdered_of_exec h
  obtain ⟨f, t, textFrom, textTo, hfrom, hto, htextFrom, htextTo, hgetFrom, hgetTo⟩ :=
    hordered.texts_of_isSuccess hmem hsuccess
  obtain ⟨htask, hget⟩ := (hcounts i).published payload hmem hsuccess
  obtain ⟨hlanded, hyes, hno⟩ := (hcounts i).later htask
  obtain ⟨hdag, hrun⟩ := hordered.ids_of_isSuccess hmem hsuccess
  refine ⟨f, t, textFrom, textTo, hfrom, hto, htextFrom, htextTo, hdag, hrun, hgetFrom, hgetTo,
    fun hpath => ?_, fun hcount => ?_, fun hcount => ?_⟩
  · obtain ⟨b, hlast, hb⟩ := hlanded hpath
    obtain ⟨state, hread⟩ := exists_read_of_lastBatch hlast
    obtain ⟨f', t', hfrom', hto', hanswer⟩ := hordered.read_window i state b hread
    obtain rfl : f = f' := Option.some.inj (hfrom.symm.trans hfrom')
    obtain rfl : t = t' := Option.some.inj (hto.symm.trans hto')
    exact ⟨b, state, hlast, hb, hread, hanswer⟩
  · obtain ⟨b, hlast, heq⟩ := hyes hcount
    exact ⟨b, hlast, by rw [hget, heq]; rfl⟩
  · rw [hget, hno hcount]
    rfl

/-- The DAG `orders` with counted records. -/
def countedOrders : System ℕ (Table .integer) (List Row) :=
  DagFactory.oneDag "orders".toList
    (sqlSource .sql ordersById true fun _ _ => .error (.external "no custom query"))
    (fun _ => ⟨[], [], []⟩) Table.inserts

/-- A run whose Spark task fails after it has counted one order, and counts two orders when it
is retried. -/
def recountedOrders : List (Event ℕ (Table .integer)) :=
  List.replicate 9 (.perform 1 .up) ++ .next 1 :: List.replicate 9 (.perform 1 .up) ++
    [.raise 1 [] false, .source (Table.ofInts [7, 12]), .retry 1] ++
    List.replicate 11 (.perform 1 .up) ++ .next 1 :: List.replicate 4 (.perform 1 .up)

/-- The payload of a published metric. -/
def Action.payload? : Action σ β → Option Payload
  | .published payload => some payload
  | _ => none

/-- Only published metrics have a payload. -/
theorem Action.payload?_eq_some {a : Action σ β} {payload : Payload} :
    a.payload? = some payload ↔ a = .published payload := by
  cases a <;> simp [payload?]

/-- The metric carries the count of the batch that has landed. -/
theorem metrics_truthful_recountedOrders :
    ∃ s payload b, exec countedOrders.step
        (State.start countedOrders (Table.ofInts [7]) fun _ => none) recountedOrders = some s ∧
      (1, .published payload) ∈ s.log ∧ lastBatch s.log 1 = some b ∧
      Dict.get? payload ("record_count" : Text) = some (.int (b.length : ℤ)) := by
  have hrun : ((exec countedOrders.step
      (State.start countedOrders (Table.ofInts [7]) fun _ => none) recountedOrders).bind fun s =>
      s.log.head?.bind fun entry => entry.2.payload?.bind fun payload =>
        if entry.1 = 1 then Dict.get? payload ("status" : Text) else none) =
      some (.str "success") := by decide +kernel
  obtain ⟨s, hs, hrun⟩ := Option.bind_eq_some_iff.mp hrun
  obtain ⟨⟨j, a⟩, hhead, hrun⟩ := Option.bind_eq_some_iff.mp hrun
  obtain ⟨payload, hpayload, hrun⟩ := Option.bind_eq_some_iff.mp hrun
  obtain ⟨rfl, hsuccess⟩ := Option.ite_none_right_eq_some.mp hrun
  obtain rfl := Action.payload?_eq_some.mp hpayload
  have hmem : (1, .published payload) ∈ s.log := List.mem_of_head? hhead
  obtain ⟨-, -, -, -, -, -, -, -, -, -, -, -, -, hcounts, -⟩ := metrics_truthful hs hmem hsuccess
  obtain ⟨b, hlast, hget⟩ := hcounts rfl
  exact ⟨s, payload, b, hs, hmem, hlast, hget⟩

end System

end Counting

end BatchIngestion
