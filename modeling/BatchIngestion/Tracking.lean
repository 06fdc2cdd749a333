import BatchIngestion.Ledger

/-!
# Tracking runs by the log

A run is tracked by the log of the system: its local variables, its XCom entry and
the steps it has behind it are determined by its own actions. Every step that a
tracked run performs is justified by the ledger and leaves the run tracked.
-/

namespace BatchIngestion

open Python Library

variable {ι σ β : Type}

/-! ### The steps of a task -/

/-- The task that a step belongs to. -/
def Step.task : Step → Task
  | .loadConfig | .buildSourceConfig | .buildSinkConfig | .sourceSecret | .sinkSecret
  | .metricSecret | .fetchCheckpointFrom | .fetchCheckpointTo | .pushContext => .init
  | .pullContext | .buildSparkSession | .createSource | .createSink | .validateSource
  | .validateSink | .buildWritePath | .copyFrom | .applyFilters | .read | .countRecords | .scan
  | .write => .sparkRun
  | .pullCheckpoints | .buildMetricAdapter | .validateMetric | .publish | .saveCheckpoint =>
    .metricPush

/-- A task consists of its own steps. -/
theorem Source.task_of_mem_steps {source : Source σ β} {task : Task} {step : Step}
    (h : step ∈ source.steps task) : step.task = task := by
  cases task with
  | init =>
    simp only [Source.steps, List.mem_cons, List.not_mem_nil, or_false] at h
    rcases h with rfl | rfl | rfl | rfl | rfl | rfl | rfl | rfl | rfl <;> rfl
  | sparkRun =>
    have hall : ∀ step ∈ source.steps .sparkRun, step.task = .sparkRun := by
      unfold Source.steps
      cases source.config.isPath <;> cases source.countRecords <;> decide
    exact hall step h
  | metricPush =>
    simp only [Source.steps, List.mem_cons, List.not_mem_nil, or_false] at h
    rcases h with rfl | rfl | rfl | rfl | rfl <;> rfl
  | done => simp [Source.steps] at h

/-- The Spark task writes or copies. -/
theorem Source.lands_mem_steps (source : Source σ β) :
    .write ∈ source.steps .sparkRun ∨ .copyFrom ∈ source.steps .sparkRun := by
  unfold Source.steps
  cases source.config.isPath <;> cases source.countRecords <;> decide

/-- Only path sources are copied. -/
theorem Source.isPath_of_copyFrom_mem {source : Source σ β}
    (h : .copyFrom ∈ source.steps .sparkRun) : source.config.isPath = true := by
  by_contra hpath
  rw [Bool.not_eq_true] at hpath
  revert h
  unfold Source.steps
  rw [hpath]
  cases source.countRecords <;> decide

/-! ### Tracking a run by the log -/

section Tracking

variable [DecidableEq ι]

/-- The log determines what a run knows and which steps it has behind it. -/
structure Tracks (sys : System ι σ β) (log : List (ι × Action σ β)) (i : ι) (run : Run β) :
    Prop where
  /-- The remaining steps are the end of the task. -/
  suffix : run.todo <:+ (sys.dag i).source.steps run.task
  /-- The init task has not succeeded while it runs. -/
  init_open : run.task = .init → ¬ Finished log i .init
  /-- The later tasks start after it. -/
  init_finished : run.task ≠ .init → Finished log i .init
  /-- The local `checkpoint_from` is the one fetched last. -/
  from_logged : ∀ v, run.checkpointFrom = some v → lastFrom log i = some v
  /-- The local `checkpoint_to` is the one computed last. -/
  to_logged : ∀ v, run.checkpointTo = some v → lastTo log i = some v
  /-- There is no local `checkpoint_to` before it is computed. -/
  to_pending : .fetchCheckpointTo ∈ run.todo → run.checkpointTo = none
  /-- The `checkpoint_to` is computed after the `checkpoint_from` is fetched. -/
  to_newest : run.checkpointTo ≠ none ∨ run.xcom ≠ none → ToAfterFrom log i
  /-- The push is the last step of the init task. -/
  push_last : run.task = .init → run.xcom = none ∨ run.todo = []
  /-- The init task pushes before it succeeds. -/
  pushes : run.task = .init → .pushContext ∈ run.todo ∨ run.xcom ≠ none
  /-- The XCom entry carries the checkpoints of the log. -/
  xcom_logged : ∀ x, run.xcom = some x → ∃ f t, lastFrom log i = some f ∧ lastTo log i = some t ∧
    x = Xcom.ofCheckpoints f t (sys.dag i).source.readType (sys.info i).ingestionDate
  /-- The later tasks have an XCom entry. -/
  xcom_kept : run.task ≠ .init → run.xcom ≠ none
  /-- The source adapter has the checkpoints of the log. -/
  window_logged : ∀ f t, run.window = some (f, t) →
    run.task = .sparkRun ∧ lastFrom log i = some f ∧ lastTo log i = some t
  /-- The evaluated DataFrame is the batch read last. -/
  batch_logged : ∀ b, run.batch = some b → run.task = .sparkRun ∧ lastBatch log i = some b
  /-- The Spark task lands a batch before it succeeds. -/
  lands : run.task = .sparkRun → (.write ∈ run.todo ∨ .copyFrom ∈ run.todo) ∨ ∃ b, Landed log i b
  /-- The metric task starts after the Spark task. -/
  spark_finished : run.task = .metricPush ∨ run.task = .done → Finished log i .sparkRun
  /-- The pulled texts are those of the checkpoints of the log. -/
  pulled_logged : ∀ p, run.pulled = some p → run.task = .metricPush ∧
    ∃ f t, lastFrom log i = some f ∧ lastTo log i = some t ∧
      checkpointText (serialiseCheckpoint f) = .ok p.checkpointFrom ∧
      checkpointText (serialiseCheckpoint t) = .ok p.checkpointTo
  /-- The metric task publishes before it saves. -/
  publishes : run.task = .metricPush → .publish ∈ run.todo ∨
    ∃ payload, (i, .published payload) ∈ log ∧ (sys.dag i).metricPush.Reports payload

variable {sys : System ι σ β} {log log' : List (ι × Action σ β)} {i : ι} {run : Run β}

/-- A run stays tracked while the log grows without an action that the run refers to. -/
theorem Tracks.mono (h : Tracks sys log i run) (hmem : ∀ entry ∈ log, entry ∈ log')
    (hfrom : lastFrom log' i = lastFrom log i) (hto : lastTo log' i = lastTo log i)
    (horder : ToAfterFrom log i → ToAfterFrom log' i)
    (hbatch : run.batch = none ∨ lastBatch log' i = lastBatch log i)
    (hinit : Finished log' i .init → Finished log i .init) : Tracks sys log' i run where
  suffix := h.suffix
  init_open htask hfin := h.init_open htask (hinit hfin)
  init_finished htask := hmem _ (h.init_finished htask)
  from_logged v hv := hfrom.trans (h.from_logged v hv)
  to_logged v hv := hto.trans (h.to_logged v hv)
  to_pending := h.to_pending
  to_newest hknown := horder (h.to_newest hknown)
  push_last := h.push_last
  pushes := h.pushes
  xcom_logged := by rw [hfrom, hto]; exact h.xcom_logged
  xcom_kept := h.xcom_kept
  window_logged := by rw [hfrom, hto]; exact h.window_logged
  batch_logged b hb := by
    obtain ⟨htask, hlast⟩ := h.batch_logged b hb
    exact ⟨htask, (hbatch.resolve_left (by simp [hb])).trans hlast⟩
  lands htask := (h.lands htask).imp_right fun ⟨b, hb⟩ => ⟨b, hmem _ hb⟩
  spark_finished htask := hmem _ (h.spark_finished htask)
  pulled_logged := by rw [hfrom, hto]; exact h.pulled_logged
  publishes htask := (h.publishes htask).imp_right fun ⟨p, hp, hr⟩ => ⟨p, hmem _ hp, hr⟩

/-- An action of another run leaves a run tracked. -/
theorem Tracks.frame (h : Tracks sys log i run) {j : ι} (hij : j ≠ i) (a : Action σ β) :
    Tracks sys ((j, a) :: log) i run := by
  refine h.mono (fun _ => List.mem_cons_of_mem _) (newest_cons_of_ne _ hij a log)
    (newest_cons_of_ne _ hij a log) (newest_cons_of_ne _ hij a log).trans
    (.inr (newest_cons_of_ne _ hij a log)) fun hfin => ?_
  rcases List.mem_cons.mp hfin with heq | hfin
  · exact absurd (Prod.mk.inj heq).1.symm hij
  · exact hfin

/-- An action that the run does not refer to leaves it tracked. -/
theorem Tracks.emit (h : Tracks sys log i run) {a : Action σ β} (hfrom : a.from? = none)
    (hto : a.to? = none) (horder : a.isTo? = none) (hbatch : run.batch = none ∨ a.batch? = none)
    (hinit : a ≠ .finished .init) : Tracks sys ((i, a) :: log) i run := by
  refine h.mono (fun _ => List.mem_cons_of_mem _) (newest_cons_of_none hfrom i i log)
    (newest_cons_of_none hto i i log) (newest_cons_of_none horder i i log).trans
    (hbatch.imp_right fun hnone => newest_cons_of_none hnone i i log) fun hfin => ?_
  rcases List.mem_cons.mp hfin with heq | hfin
  · exact absurd (Prod.mk.inj heq).2.symm hinit
  · exact hfin

/-- The next step of a run belongs to its task. -/
theorem Tracks.task_eq (h : Tracks sys log i run) {step : Step} {rest : List Step}
    (htodo : run.todo = step :: rest) : run.task = step.task :=
  (Source.task_of_mem_steps (h.suffix.subset (htodo ▸ List.mem_cons_self))).symm

/-- A run stays tracked when it drops a step that leaves nothing behind, or whose mark the
log already shows. -/
theorem Tracks.pop (h : Tracks sys log i run) {step : Step} {rest : List Step}
    (htodo : run.todo = step :: rest) (hpush : step ≠ .pushContext)
    (hland : (step ≠ .write ∧ step ≠ .copyFrom) ∨ ∃ b, Landed log i b)
    (hpublish : step ≠ .publish ∨
      ∃ payload, (i, .published payload) ∈ log ∧ (sys.dag i).metricPush.Reports payload) :
    Tracks sys log i { run with todo := rest } :=
  { h with
    suffix := by
      have hsuffix := h.suffix
      rw [htodo] at hsuffix
      exact (List.suffix_cons step rest).trans hsuffix
    to_pending := fun hmem => h.to_pending (htodo ▸ List.mem_cons_of_mem _ hmem)
    push_last := fun htask => by
      rcases h.push_last htask with hx | hnil
      · exact .inl hx
      · exact absurd hnil (by simp [htodo])
    pushes := fun htask => by
      refine (h.pushes htask).imp_left fun hmem => ?_
      rw [htodo] at hmem
      exact (List.mem_cons.mp hmem).resolve_left (Ne.symm hpush)
    lands := fun htask => by
      rcases h.lands htask with hmem | hlanded
      · rcases hland with ⟨hwrite, hcopy⟩ | hlanded
        · rw [htodo] at hmem
          simp only [List.mem_cons, Ne.symm hwrite, Ne.symm hcopy, false_or] at hmem
          exact .inl hmem
        · exact .inr hlanded
      · exact .inr hlanded
    publishes := fun htask => by
      rcases h.publishes htask with hmem | hpublished
      · rcases hpublish with hne | hpublished
        · rw [htodo] at hmem
          exact .inl ((List.mem_cons.mp hmem).resolve_left (Ne.symm hne))
        · exact .inr hpublished
      · exact .inr hpublished }

/-- A run in the init task with steps left has no data of the later tasks. -/
theorem Tracks.init_fresh (h : Tracks sys log i run) {step : Step} {rest : List Step}
    (htodo : run.todo = step :: rest) (htask : run.task = .init) :
    run.xcom = none ∧ run.window = none ∧ run.batch = none ∧ run.pulled = none := by
  refine ⟨?_, ?_, ?_, ?_⟩
  · rcases h.push_last htask with hx | hnil
    · exact hx
    · exact absurd hnil (by simp [htodo])
  · cases hw : run.window with
    | none => rfl
    | some w => exact absurd ((h.window_logged w.1 w.2 hw).1.symm.trans htask) (by decide)
  · cases hb : run.batch with
    | none => rfl
    | some b => exact absurd ((h.batch_logged b hb).1.symm.trans htask) (by decide)
  · cases hp : run.pulled with
    | none => rfl
    | some p => exact absurd ((h.pulled_logged p hp).1.symm.trans htask) (by decide)

/-! ### One step -/

/-- The steps that do an action, for the actions that only a performed step does. -/
def Action.steps : Action σ β → List Step
  | .fetchedFrom _ => [.fetchCheckpointFrom]
  | .fetchedTo _ => [.fetchCheckpointTo]
  | .read _ _ => [.countRecords, .scan]
  | .landed _ => [.write, .copyFrom]
  | .saved _ => [.saveCheckpoint]
  | .finished _ | .published _ => []

/-- The text of a save. -/
def Action.text? : Action σ β → Option Text
  | .saved text => some text
  | _ => none

/-- A log with an optional new action. -/
def extendLog (log : List (ι × Action σ β)) (i : ι) (a : Option (Action σ β)) :
    List (ι × Action σ β) :=
  a.elim log fun a => (i, a) :: log

/-- The effect of a step is justified: the ledger allows the action, the run stays tracked,
and exactly a save changes the row. -/
structure Justified (sys : System ι σ β) (initial : Text → Option Text) (source : σ)
    (log : List (ι × Action σ β)) (i : ι) (step : Step) (rest : List Step)
    (effect : Effect σ β) : Prop where
  /-- The run stays tracked. -/
  tracked : Tracks sys (extendLog log i effect.emitted) i { effect.run with todo := rest }
  /-- The ledger allows the action. -/
  allowed : ∀ a, effect.emitted = some a → sys.Allowed initial source log i a
  /-- Exactly a save upserts, and it upserts its text. -/
  upserted : effect.upsert = effect.emitted.bind Action.text?
  /-- The step is one that does the action. -/
  performed : ∀ a, effect.emitted = some a → a.steps = [] ∨ step ∈ a.steps
  /-- The attempt goes on. -/
  unfailed : effect.run.failed = false

variable {initial : Text → Option Text} {source : σ} {step : Step} {rest : List Step}

/-- A step without effect is justified. -/
theorem Tracks.justified_quiet (h : Tracks sys log i run) (hfailed : run.failed = false)
    (htodo : run.todo = step :: rest)
    (hstep : step ∉ [Step.pushContext, .write, .copyFrom, .publish]) :
    Justified sys initial source log i step rest ⟨run, none, none⟩ := by
  simp only [List.mem_cons, List.not_mem_nil, or_false, not_or] at hstep
  obtain ⟨hpush, hwrite, hcopy, hpublish⟩ := hstep
  exact ⟨h.pop htodo hpush (.inl ⟨hwrite, hcopy⟩) (.inl hpublish), by simp, rfl, by simp, hfailed⟩

/-- The init task stays tracked when it learns a checkpoint and the log records it. -/
theorem Tracks.learn (h : Tracks sys log i run) (htodo : run.todo = step :: rest)
    (htask : run.task = .init) (hpush : step ≠ .pushContext) {a : Action σ β}
    (ha : a ≠ .finished .init) {f t : Option (Option CheckpointValue)}
    (hfrom : ∀ v, f = some v → lastFrom ((i, a) :: log) i = some v)
    (hto : ∀ v, t = some v → lastTo ((i, a) :: log) i = some v)
    (hpending : .fetchCheckpointTo ∈ rest → t = none)
    (horder : t ≠ none → ToAfterFrom ((i, a) :: log) i) : Tracks sys ((i, a) :: log) i
      { run with checkpointFrom := f, checkpointTo := t, todo := rest } := by
  obtain ⟨hxcom, hwindow, hbatch, hpulled⟩ := h.init_fresh htodo htask
  have hsuffix := h.suffix
  rw [htodo] at hsuffix
  refine {
    suffix := (List.suffix_cons step rest).trans hsuffix
    init_open := fun _ hfin =>
      h.init_open htask ((List.mem_cons.mp hfin).resolve_left fun heq =>
        ha (Prod.mk.inj heq).2.symm)
    init_finished := fun hne => absurd htask hne
    from_logged := hfrom
    to_logged := hto
    to_pending := hpending
    to_newest := fun hknown => horder (hknown.resolve_right (by simp [hxcom]))
    push_last := fun _ => .inl hxcom
    pushes := fun _ => .inl ?_
    xcom_logged := fun x hx => absurd (hxcom.symm.trans hx) (by simp)
    xcom_kept := fun hne => absurd htask hne
    window_logged := fun f t hw => absurd (hwindow.symm.trans hw) (by simp)
    batch_logged := fun b hb => absurd (hbatch.symm.trans hb) (by simp)
    lands := fun hspark => absurd (htask.symm.trans hspark) (by decide)
    spark_finished := fun hlater => ?_
    pulled_logged := fun p hp => absurd (hpulled.symm.trans hp) (by simp)
    publishes := fun hmetric => absurd (htask.symm.trans hmetric) (by decide) }
  · have hmem := (h.pushes htask).resolve_right (by simp [hxcom])
    rw [htodo] at hmem
    exact (List.mem_cons.mp hmem).resolve_left (Ne.symm hpush)
  · rcases hlater with hlater | hlater <;> exact absurd (htask.symm.trans hlater) (by decide)

/-- What follows a step of the init task. -/
theorem Tracks.init_suffix (h : Tracks sys log i run) (htodo : run.todo = step :: rest)
    (htask : step.task = .init) : step :: rest <:+ (sys.dag i).source.steps .init := by
  have hsuffix := h.suffix
  rw [htodo, h.task_eq htodo, htask] at hsuffix
  exact hsuffix

/-- The checkpoints are fetched in their order, and pushed at the end. -/
theorem Tracks.rest_eq_of_fetchCheckpointFrom (h : Tracks sys log i run)
    (htodo : run.todo = .fetchCheckpointFrom :: rest) :
    rest = [.fetchCheckpointTo, .pushContext] := by
  simpa [Source.steps, List.suffix_cons_iff] using h.init_suffix htodo rfl

/-- Only the push follows the computation of `checkpoint_to`. -/
theorem Tracks.rest_eq_of_fetchCheckpointTo (h : Tracks sys log i run)
    (htodo : run.todo = .fetchCheckpointTo :: rest) : rest = [.pushContext] := by
  simpa [Source.steps, List.suffix_cons_iff] using h.init_suffix htodo rfl

/-- Nothing follows the push in the init task. -/
theorem Tracks.rest_eq_nil (h : Tracks sys log i run) (htodo : run.todo = .pushContext :: rest) :
    rest = [] := by
  simpa [Source.steps, List.suffix_cons_iff] using h.init_suffix htodo rfl

/-- Fetching `checkpoint_from` is justified. -/
theorem Tracks.justified_fetchCheckpointFrom (h : Tracks sys log i run)
    (hfailed : run.failed = false) (htodo : run.todo = .fetchCheckpointFrom :: rest)
    {v : Option CheckpointValue}
    (hrow : InitOperator.parseRow ((sys.stored initial log (sys.dag i).dagId).map .text) = .ok v) :
    Justified sys initial source log i .fetchCheckpointFrom rest
      ⟨{ run with checkpointFrom := some v }, some (.fetchedFrom v), none⟩ := by
  have htask : run.task = .init := h.task_eq htodo
  obtain rfl := h.rest_eq_of_fetchCheckpointFrom htodo
  have hpending : run.checkpointTo = none := h.to_pending (by simp [htodo])
  refine ⟨h.learn htodo htask (by decide) (by simp) (fun w hw => ?_) (fun w hw => ?_)
    (fun _ => hpending) (absurd hpending), ?_, rfl, ?_, hfailed⟩
  · obtain rfl : v = w := Option.some.inj hw
    exact lastFrom_fetchedFrom log i v
  · exact (newest_cons_of_none rfl i i log).trans (h.to_logged w hw)
  · rintro a ⟨⟩
    exact .fetchedFrom (h.init_open htask) hrow
  · rintro a ⟨⟩
    exact .inr List.mem_cons_self

/-- Computing `checkpoint_to` is justified. -/
theorem Tracks.justified_fetchCheckpointTo (h : Tracks sys log i run)
    (hfailed : run.failed = false) (htodo : run.todo = .fetchCheckpointTo :: rest)
    {v : Option CheckpointValue}
    (hmax : v = none ∨ v = InitOperator.fetchCheckpointTo (sys.dag i).source.readType
      (sys.dag i).source.config ((sys.dag i).source.native source)) :
    Justified sys initial source log i .fetchCheckpointTo rest
      ⟨{ run with checkpointTo := some v }, some (.fetchedTo v), none⟩ := by
  have htask : run.task = .init := h.task_eq htodo
  obtain rfl := h.rest_eq_of_fetchCheckpointTo htodo
  refine ⟨h.learn htodo htask (by decide) (by simp) (fun w hw => ?_) (fun w hw => ?_) (by simp)
    (fun _ => toAfterFrom_fetchedTo log i v), ?_, rfl, ?_, hfailed⟩
  · exact (newest_cons_of_none rfl i i log).trans (h.from_logged w hw)
  · obtain rfl : v = w := Option.some.inj hw
    exact lastTo_fetchedTo log i v
  · rintro a ⟨⟩
    exact .fetchedTo (h.init_open htask) hmax
  · rintro a ⟨⟩
    exact .inr List.mem_cons_self

/-- Pushing the context is justified. -/
theorem Tracks.justified_pushContext (h : Tracks sys log i run) (hfailed : run.failed = false)
    (htodo : run.todo = .pushContext :: rest) {f t : Option CheckpointValue}
    (hf : run.checkpointFrom = some f) (ht : run.checkpointTo = some t) :
    Justified sys initial source log i .pushContext rest
      ⟨{ run with xcom := some (Xcom.ofCheckpoints f t (sys.dag i).source.readType
        (sys.info i).ingestionDate) }, none, none⟩ := by
  obtain rfl := h.rest_eq_nil htodo
  have htask : run.task = .init := h.task_eq htodo
  refine ⟨{ h with
    suffix := List.nil_suffix
    to_pending := by simp
    to_newest := fun _ => h.to_newest (.inl (by simp [ht]))
    push_last := fun _ => .inr rfl
    pushes := fun _ => .inr (by simp)
    xcom_logged := fun x hx => ⟨f, t, h.from_logged f hf, h.to_logged t ht, ?_⟩
    xcom_kept := fun _ => by simp
    lands := fun hspark => absurd (htask.symm.trans hspark) (by decide)
    publishes := fun hmetric => absurd (htask.symm.trans hmetric) (by decide) },
    by simp, rfl, by simp, hfailed⟩
  exact (Option.some.inj hx).symm

/-- Pulling the context is justified. -/
theorem Tracks.justified_pullContext (h : Tracks sys log i run) (hfailed : run.failed = false)
    (htodo : run.todo = .pullContext :: rest) {x : Xcom} (hx : run.xcom = some x)
    {f t : Option CheckpointValue} (hf : deserialiseCheckpoint x.checkpointFrom = .ok f)
    (ht : deserialiseCheckpoint x.checkpointTo = .ok t) :
    Justified sys initial source log i .pullContext rest
      ⟨{ run with window := some (f, t) }, none, none⟩ := by
  have htask : run.task = .sparkRun := h.task_eq htodo
  have hpop := h.pop htodo (by decide) (.inl (by decide)) (.inl (by decide))
  obtain ⟨f', t', hf', ht', rfl⟩ := h.xcom_logged x hx
  obtain rfl : f' = f := by simpa [Xcom.ofCheckpoints] using hf
  obtain rfl : t' = t := by simpa [Xcom.ofCheckpoints] using ht
  refine ⟨{ hpop with window_logged := fun f t hw => ?_ }, by simp, rfl, by simp, hfailed⟩
  obtain ⟨rfl, rfl⟩ := Prod.mk.inj (Option.some.inj hw)
  exact ⟨htask, hf', ht'⟩

/-- Evaluating the DataFrame is justified. -/
theorem Tracks.justified_evaluate (h : Tracks sys log i run) (hfailed : run.failed = false)
    (htodo : run.todo = step :: rest) (hstep : step = .countRecords ∨ step = .scan) {b : β}
    (hb : evaluate (sys.dag i) source run = .ok b) (count : Option ℕ) :
    Justified sys initial source log i step rest
      ⟨{ run with batch := some b, recordCount := count }, some (.read source b), none⟩ := by
  have htask : run.task = .sparkRun :=
    (h.task_eq htodo).trans (by rcases hstep with rfl | rfl <;> rfl)
  -- the run is tracked without its batch, and the log shows the new one
  have hblank : Tracks sys log i { run with batch := none, recordCount := count } :=
    { h with batch_logged := fun b' hb' => by simp at hb' }
  have hemit : Tracks sys ((i, .read source b) :: log) i
      { run with batch := none, recordCount := count } :=
    hblank.emit rfl rfl rfl (.inl rfl) (by simp)
  have hpop := hemit.pop htodo (by rcases hstep with rfl | rfl <;> decide)
    (.inl (by rcases hstep with rfl | rfl <;> decide))
    (.inl (by rcases hstep with rfl | rfl <;> decide))
  refine ⟨{ hpop with batch_logged := fun b' hb' => ⟨htask, ?_⟩ }, ?_, rfl, ?_, hfailed⟩
  · obtain rfl : b = b' := Option.some.inj hb'
    exact lastBatch_read log i source b
  · rintro a ⟨⟩
    unfold evaluate at hb
    split at hb
    · rename_i f t hw
      obtain ⟨-, hf, ht⟩ := h.window_logged f t hw
      exact .read (h.init_finished (by simp [htask])) hf ht hb
    · simp at hb
  · rintro a ⟨⟩
    refine .inr ?_
    rcases hstep with rfl | rfl <;> simp [Action.steps]

/-- Landing a batch is justified. -/
theorem Tracks.justified_land (h : Tracks sys log i run) (hfailed : run.failed = false)
    (htodo : run.todo = step :: rest) (hstep : step = .write ∨ step = .copyFrom) {b : β}
    (hallowed : sys.Allowed initial source log i (.landed b)) :
    Justified sys initial source log i step rest ⟨run, some (.landed b), none⟩ := by
  have hemit : Tracks sys ((i, .landed b) :: log) i run := h.emit rfl rfl rfl (.inr rfl) (by simp)
  refine ⟨hemit.pop htodo (by rcases hstep with rfl | rfl <;> decide)
    (.inr ⟨b, List.mem_cons_self⟩) (.inl (by rcases hstep with rfl | rfl <;> decide)), ?_, rfl, ?_,
    hfailed⟩
  · rintro a ⟨⟩
    exact hallowed
  · rintro a ⟨⟩
    refine .inr ?_
    rcases hstep with rfl | rfl <;> simp [Action.steps]

/-- The XCom pulls of the metric task are justified. -/
theorem Tracks.justified_pullCheckpoints (h : Tracks sys log i run) (hfailed : run.failed = false)
    (htodo : run.todo = .pullCheckpoints :: rest) {p : Pulled}
    (hp : (sys.dag i).metricPush.pull run.xcom run.recordCount = .ok p) :
    Justified sys initial source log i .pullCheckpoints rest
      ⟨{ run with pulled := some p }, none, none⟩ := by
  have htask : run.task = .metricPush := h.task_eq htodo
  have hpop := h.pop htodo (by decide) (.inl (by decide)) (.inl (by decide))
  refine ⟨{ hpop with pulled_logged := fun p' hp' => ⟨htask, ?_⟩ }, by simp, rfl, by simp, hfailed⟩
  obtain rfl : p = p' := Option.some.inj hp'
  cases hx : run.xcom with
  | none => exact absurd hx (h.xcom_kept (by simp [htask]))
  | some x =>
    obtain ⟨f, t, hf, ht, rfl⟩ := h.xcom_logged x hx
    rw [hx] at hp
    obtain ⟨textFrom, htextFrom, hp⟩ := bind_eq_ok_iff.mp hp
    obtain ⟨textTo, htextTo, hp⟩ := bind_eq_ok_iff.mp hp
    obtain rfl := Except.ok.inj hp
    exact ⟨f, t, hf, ht, htextFrom, htextTo⟩

/-- Publishing the metric is justified. -/
theorem Tracks.justified_publish (h : Tracks sys log i run) (hfailed : run.failed = false)
    (htodo : run.todo = .publish :: rest) {p : Pulled} (hp : run.pulled = some p) (now : Text) :
    Justified sys initial source log i .publish rest
      ⟨run, some (.published
        ((sys.dag i).metricPush.payload (sys.dag i).dagId now (sys.info i) p)), none⟩ := by
  obtain ⟨htask, f, t, hf, ht, htextFrom, htextTo⟩ := h.pulled_logged p hp
  have hemit : Tracks sys ((i, .published
      ((sys.dag i).metricPush.payload (sys.dag i).dagId now (sys.info i) p)) :: log) i run :=
    h.emit rfl rfl rfl (.inr rfl) (by simp)
  refine ⟨hemit.pop htodo (by decide) (.inl (by decide))
    (.inr ⟨_, List.mem_cons_self, _, _, _, _, rfl⟩), ?_, rfl, ?_, hfailed⟩
  · rintro a ⟨⟩
    exact .published (h.spark_finished (.inl htask)) hf ht htextFrom htextTo
  · rintro a ⟨⟩
    exact .inl rfl

/-- Saving the checkpoint, or leaving it, is justified. -/
theorem Tracks.justified_saveCheckpoint (h : Tracks sys log i run) (hfailed : run.failed = false)
    (htodo : run.todo = .saveCheckpoint :: rest) {p : Pulled} (hp : run.pulled = some p)
    {text : Option Text} (htext : (sys.dag i).metricPush.checkpointToSave p = .ok text) :
    Justified sys initial source log i .saveCheckpoint rest
      ⟨run, text.map .saved, text⟩ := by
  obtain ⟨htask, f, t, hf, ht, htextFrom, htextTo⟩ := h.pulled_logged p hp
  have hpop := h.pop htodo (by decide) (.inl (by decide)) (.inl (by decide))
  cases text with
  | none => exact ⟨hpop, by simp, rfl, by simp, hfailed⟩
  | some text =>
    have hsaved := MetricPushOperator.checkpointTo_of_checkpointToSave htext
    have hmissing : Step.publish ∉ run.todo := by
      have hsuffix := h.suffix
      rw [htask, htodo] at hsuffix
      have hrest : rest = [] := by simpa [Source.steps, List.suffix_cons_iff] using hsuffix
      rw [htodo, hrest]
      decide
    obtain ⟨payload, hpublished, hreports⟩ := (h.publishes htask).resolve_left hmissing
    refine ⟨hpop.emit rfl rfl rfl (.inr rfl) (by simp), ?_, rfl, ?_, hfailed⟩
    · rintro a ⟨⟩
      exact .saved (h.spark_finished (.inl htask)) ht (hsaved ▸ htextTo) hpublished hreports
    · rintro a ⟨⟩
      exact .inr List.mem_cons_self

/-- **Every performed step is justified.** -/
theorem Tracks.justified (h : Tracks sys log i run) (hfailed : run.failed = false)
    (htodo : run.todo = step :: rest) {outside : Outside} {effect : Effect σ β}
    (heffect : step.effect (sys.dag i) (sys.info i) outside source
      (sys.stored initial log (sys.dag i).dagId) run = .ok effect) :
    Justified sys initial source log i step rest effect := by
  cases step with
  | fetchCheckpointFrom =>
    obtain ⟨v, hrow, heffect⟩ := bind_eq_ok_iff.mp heffect
    obtain rfl := Except.ok.inj heffect
    exact h.justified_fetchCheckpointFrom hfailed htodo hrow
  | fetchCheckpointTo =>
    obtain rfl := Except.ok.inj heffect
    refine h.justified_fetchCheckpointTo hfailed htodo ?_
    cases outside.sourceUp with
    | true => exact .inr rfl
    | false => exact .inl InitOperator.fetchCheckpointTo_down
  | pushContext =>
    simp only [Step.effect] at heffect
    split at heffect
    · rename_i f t hf ht
      obtain rfl := Except.ok.inj heffect
      exact h.justified_pushContext hfailed htodo hf ht
    · simp at heffect
  | pullContext =>
    simp only [Step.effect] at heffect
    split at heffect
    · rename_i x hx
      obtain ⟨f, hf, heffect⟩ := bind_eq_ok_iff.mp heffect
      obtain ⟨t, ht, heffect⟩ := bind_eq_ok_iff.mp heffect
      obtain rfl := Except.ok.inj heffect
      exact h.justified_pullContext hfailed htodo hx hf ht
    · simp at heffect
  | countRecords =>
    obtain ⟨b, hb, heffect⟩ := bind_eq_ok_iff.mp heffect
    obtain rfl := Except.ok.inj heffect
    exact h.justified_evaluate hfailed htodo (.inl rfl) hb _
  | scan =>
    obtain ⟨b, hb, heffect⟩ := bind_eq_ok_iff.mp heffect
    obtain rfl := Except.ok.inj heffect
    exact h.justified_evaluate hfailed htodo (.inr rfl) hb _
  | write =>
    simp only [Step.effect] at heffect
    split at heffect
    · rename_i b hb
      obtain rfl := Except.ok.inj heffect
      have htask : run.task = .sparkRun := h.task_eq htodo
      exact h.justified_land hfailed htodo (.inl rfl)
        (.landed (h.init_finished (by simp [htask])) (h.batch_logged b hb).2)
    · simp at heffect
  | copyFrom =>
    obtain rfl := Except.ok.inj heffect
    have htask : run.task = .sparkRun := h.task_eq htodo
    have hmem : Step.copyFrom ∈ (sys.dag i).source.steps .sparkRun :=
      htask ▸ h.suffix.subset (htodo ▸ List.mem_cons_self)
    exact h.justified_land hfailed htodo (.inr rfl)
      (.copied (h.init_finished (by simp [htask])) (Source.isPath_of_copyFrom_mem hmem))
  | pullCheckpoints =>
    obtain ⟨p, hp, heffect⟩ := bind_eq_ok_iff.mp heffect
    obtain rfl := Except.ok.inj heffect
    exact h.justified_pullCheckpoints hfailed htodo hp
  | publish =>
    simp only [Step.effect] at heffect
    split at heffect
    · rename_i p hp
      obtain rfl := Except.ok.inj heffect
      exact h.justified_publish hfailed htodo hp outside.now
    · simp at heffect
  | saveCheckpoint =>
    simp only [Step.effect] at heffect
    split at heffect
    · rename_i p hp
      obtain ⟨text, htext, heffect⟩ := bind_eq_ok_iff.mp heffect
      obtain rfl := Except.ok.inj heffect
      exact h.justified_saveCheckpoint hfailed htodo hp htext
    · simp at heffect
  | loadConfig | buildSourceConfig | buildSinkConfig | sourceSecret | sinkSecret | metricSecret
  | buildSparkSession | createSource | createSink | validateSource | validateSink
  | buildWritePath | applyFilters | read | buildMetricAdapter | validateMetric =>
    obtain rfl := Except.ok.inj heffect
    exact h.justified_quiet hfailed htodo (by decide)

/-- A new attempt of a task is tracked when the log shows what the tasks before it left
behind. -/
theorem tracks_attempt {task : Task} {xcom : Option Xcom} {count : Option ℕ}
    (hinit : task = .init → ¬ Finished log i .init ∧ xcom = none)
    (hlater : task ≠ .init → Finished log i .init ∧ ToAfterFrom log i ∧ xcom ≠ none)
    (hxcom : ∀ x, xcom = some x → ∃ f t, lastFrom log i = some f ∧ lastTo log i = some t ∧
      x = Xcom.ofCheckpoints f t (sys.dag i).source.readType (sys.info i).ingestionDate)
    (hspark : task = .metricPush ∨ task = .done → Finished log i .sparkRun) :
    Tracks sys log i { task := task, todo := (sys.dag i).source.steps task, xcom := xcom
                       recordCount := count } where
  suffix := List.suffix_rfl
  init_open htask := (hinit htask).1
  init_finished htask := (hlater htask).1
  from_logged v hv := by simp at hv
  to_logged v hv := by simp at hv
  to_pending _ := rfl
  to_newest hknown := by
    have hpushed : xcom ≠ none := hknown.resolve_left (by simp)
    exact (hlater fun htask => hpushed (hinit htask).2).2.1
  push_last htask := .inl (hinit htask).2
  pushes htask := .inl (by
    obtain rfl : task = .init := htask
    simp [Source.steps])
  xcom_logged := hxcom
  xcom_kept htask := (hlater htask).2.2
  window_logged f t hw := by simp at hw
  batch_logged b hb := by simp at hb
  lands htask := .inl (by
    obtain rfl : task = .sparkRun := htask
    exact Source.lands_mem_steps _)
  spark_finished := hspark
  pulled_logged p hp := by simp at hp
  publishes htask := .inl (by
    obtain rfl : task = .metricPush := htask
    simp [Source.steps])

/-- A later task finds what the init task has left behind. -/
theorem Tracks.later (h : Tracks sys log i run) (htask : run.task ≠ .init) :
    Finished log i .init ∧ ToAfterFrom log i ∧ run.xcom ≠ none := by
  have hpushed := h.xcom_kept htask
  exact ⟨h.init_finished htask, h.to_newest (.inr hpushed), hpushed⟩

/-- A retried attempt is tracked. -/
theorem Tracks.restart (h : Tracks sys log i run) :
    Tracks sys log i (run.restart (sys.dag i)) := by
  unfold Run.restart
  cases htask : run.task with
  | init =>
    exact tracks_attempt (fun _ => ⟨h.init_open htask, rfl⟩) (absurd rfl) (by simp) (by simp)
  | sparkRun =>
    exact tracks_attempt (by simp) (fun _ => h.later (by simp [htask])) h.xcom_logged (by simp)
  | metricPush =>
    exact tracks_attempt (by simp) (fun _ => h.later (by simp [htask])) h.xcom_logged
      fun _ => h.spark_finished (.inl htask)
  | done => exact h

/-- A run that starts its next task is tracked, and the ledger allows the success of the
task before it. -/
theorem Tracks.advance (h : Tracks sys log i run) (htodo : run.todo = [])
    (htask : run.task ≠ .done) :
    Tracks sys ((i, .finished run.task) :: log) i (run.advance (sys.dag i)) ∧
      sys.Allowed initial source log i (.finished run.task) := by
  have hmem : ∀ entry ∈ log, entry ∈ (i, .finished run.task) :: log :=
    fun _ => List.mem_cons_of_mem _
  have hfrom : lastFrom ((i, .finished run.task) :: log) i = lastFrom log i :=
    newest_cons_of_none rfl i i log
  have hto : lastTo ((i, .finished run.task) :: log) i = lastTo log i :=
    newest_cons_of_none rfl i i log
  have hxcom : run.xcom ≠ none := by
    by_cases hinit : run.task = .init
    · exact (h.pushes hinit).resolve_left (by simp [htodo])
    · exact h.xcom_kept hinit
  have horder : ToAfterFrom ((i, .finished run.task) :: log) i :=
    (newest_cons_of_none rfl i i log).trans (h.to_newest (.inr hxcom))
  have hinit : Finished ((i, .finished run.task) :: log) i .init := by
    by_cases hinit : run.task = .init
    · rw [hinit]
      exact List.mem_cons_self
    · exact hmem _ (h.init_finished hinit)
  have hnext : run.task.following ≠ .init := by cases run.task <;> decide
  constructor
  · refine tracks_attempt (fun htask' => absurd htask' hnext)
      (fun _ => ⟨hinit, horder, hxcom⟩) ?_ fun hlater => ?_
    · rw [hfrom, hto]
      exact h.xcom_logged
    · cases htask' : run.task with
      | init => simp [Task.following, htask'] at hlater
      | sparkRun => exact List.mem_cons_self
      | metricPush => exact List.mem_cons_of_mem _ (h.spark_finished (.inl htask'))
      | done => exact absurd htask' htask
  · cases htask' : run.task with
    | init =>
      cases hx : run.xcom with
      | none => exact absurd hx hxcom
      | some x =>
        obtain ⟨f, t, hf, ht, -⟩ := h.xcom_logged x hx
        exact .initFinished (h.init_open htask') hf ht (h.to_newest (.inr hxcom))
    | sparkRun =>
      obtain ⟨b, hb⟩ := (h.lands htask').resolve_left (by simp [htodo])
      exact .sparkFinished hb
    | metricPush => exact .metricFinished
    | done => exact absurd htask' htask

end Tracking

end BatchIngestion
