import BatchIngestion.Progress

/-!
# Every run can be completed

A run is never stuck. From every reachable state, whatever has failed before and
wherever the other runs stand, a run that is retried if it has failed and then left
alone goes through its remaining steps and tasks, provided that its source can be read
and its checkpoint can be written.
-/

namespace BatchIngestion

open Python Library

variable {ι σ β : Type}

/-! ### The remaining events of a run -/

/-- The tasks that follow a task. -/
def Task.later : Task → List Task
  | .init => [.sparkRun, .metricPush]
  | .sparkRun => [.metricPush]
  | .metricPush | .done => []

/-- The events of a task in which nothing fails. -/
def taskEvents (todo : List Step) (i : ι) (outside : Outside) : List (Event ι σ) :=
  todo.map (fun _ => .perform i outside) ++ [.next i]

/-- The events that complete a run: a retry if it has failed, the steps that remain of its
task, and the later tasks. -/
def Source.completion (source : Source σ β) (i : ι) (outside : Outside) (run : Run β) :
    List (Event ι σ) :=
  if run.task = .done then []
  else
    (if run.failed then .retry i :: taskEvents (source.steps run.task) i outside
      else taskEvents run.todo i outside) ++
    run.task.later.flatMap fun task => taskEvents (source.steps task) i outside

/-- Only sources that are read are evaluated. -/
theorem Source.isPath_of_evaluates_mem {source : Source σ β} {step : Step}
    (hstep : step = .countRecords ∨ step = .scan) (h : step ∈ source.steps .sparkRun) :
    source.config.isPath = false := by
  by_contra hpath
  rw [Bool.not_eq_false] at hpath
  rcases hstep with rfl | rfl <;> simp [steps, hpath] at h

section Completion

variable [DecidableEq ι] {sys : System ι σ β}

/-! ### Serviceable runs -/

/-- The values that can become a checkpoint of a run: the stored one, the ones it has
fetched, and the current maximum. -/
inductive System.Known (sys : System ι σ β) (s : State ι σ β) (i : ι) : CheckpointValue → Prop
  /-- The row of its DAG. -/
  | stored {text} (h : s.store (sys.dag i).dagId = some text) : Known sys s i (parseText text)
  /-- The `checkpoint_from` it fetched last. -/
  | fetchedFrom {v} (h : lastFrom s.log i = some (some v)) : Known sys s i v
  /-- The `checkpoint_to` it computed last. -/
  | fetchedTo {v} (h : lastTo s.log i = some (some v)) : Known sys s i v
  /-- The maximum of its source. -/
  | maximum {v} (h : InitOperator.fetchCheckpointTo (sys.dag i).source.readType
      (sys.dag i).source.config ((sys.dag i).source.native s.source) = some v) : Known sys s i v

/-- The source of a run can be read between the values that can become its checkpoints, and
these values can be written to the store. -/
structure System.Serviceable (sys : System ι σ β) (s : State ι σ β) (i : ι) : Prop where
  /-- A read gives a batch. -/
  reads : (sys.dag i).source.config.isPath = false → ∀ f t, (∀ v, f = some v → sys.Known s i v) →
    (∀ v, t = some v → sys.Known s i v) → ∃ b, (sys.dag i).source.read s.source f t = .ok b
  /-- The values can be written. -/
  storable : ∀ v, sys.Known s i v → v.Storable

/-- A run that acts learns no value that it could not have known. -/
theorem System.Known.of_step {source : σ} {store : Text → Option Text} {es : List (Event ι σ)}
    {s t : State ι σ β} {e : Event ι σ} {i : ι} {v : CheckpointValue}
    (hreach : exec sys.step (State.start sys source store) es = some s)
    (hstep : sys.step s e = some t) (hactor : e.actor = some i) (h : sys.Known t i v) :
    sys.Known s i v := by
  have hs := System.simulates_of_exec hreach
  obtain ⟨ht, hledger⟩ := sys.step_refines hs hstep
  cases hledger with
  | moved hevent => simp [hevent, Event.actor] at hactor
  | silent _ hsource hlog =>
    have hstore : t.store = s.store := by rw [ht.store_eq, hs.store_eq, hlog]
    cases h with
    | stored h => exact .stored (hstore ▸ h)
    | fetchedFrom h => exact .fetchedFrom (hlog ▸ h)
    | fetchedTo h => exact .fetchedTo (hlog ▸ h)
    | maximum h => exact .maximum (hsource ▸ h)
  | @acted j a hactor' hsource hlog hallowed hperforms =>
    obtain rfl : j = i := Option.some.inj (hactor'.symm.trans hactor)
    cases h with
    | @stored text h =>
      by_cases ha : ∃ text', a = .saved text'
      · obtain ⟨text', rfl⟩ := ha
        rw [ht.store_eq, hlog, System.stored_saved, Function.update_self] at h
        obtain rfl := Option.some.inj h
        have hordered := (System.wellOrdered_of_exec hreach).cons hallowed
        have hto := hordered.parseText_of_saved List.mem_cons_self
        exact .fetchedTo ((newest_cons_of_none rfl j j s.log).symm.trans hto)
      · refine .stored ?_
        rw [hs.store_eq]
        rwa [ht.store_eq, hlog,
          sys.stored_cons_of_ne store j fun text' h' => ha ⟨text', h'⟩] at h
    | fetchedFrom h =>
      rw [hlog] at h
      rcases hallowed.lastFrom_cases h with ⟨-, -, hrow⟩ | h
      · rw [parseRow_text, ← hs.store_eq] at hrow
        obtain ⟨text, hstored, rfl⟩ := Option.map_eq_some_iff.mp (Except.ok.inj hrow)
        exact .stored hstored
      · exact .fetchedFrom h
    | fetchedTo h =>
      rw [hlog] at h
      cases hallowed with
      | @fetchedTo w hopen hmax =>
        obtain rfl : w = some v := Option.some.inj ((lastTo_fetchedTo s.log j w).symm.trans h)
        exact .maximum (hmax.resolve_left (by simp)).symm
      | _ => exact .fetchedTo ((newest_cons_of_none rfl j j s.log).symm.trans h)
    | maximum h => exact .maximum (hsource ▸ h)

/-- Only one run has moved on between two states. -/
structure State.Alone (i : ι) (s t : State ι σ β) : Prop where
  /-- The sources are the same. -/
  source_eq : t.source = s.source
  /-- The other runs are the same. -/
  runs_eq : ∀ j, j ≠ i → t.runs j = s.runs j

omit [DecidableEq ι] in
/-- One run moves on and on. -/
theorem State.Alone.trans {i : ι} {s t u : State ι σ β} (h : s.Alone i t) (h' : t.Alone i u) :
    s.Alone i u where
  source_eq := h'.source_eq.trans h.source_eq
  runs_eq j hj := (h'.runs_eq j hj).trans (h.runs_eq j hj)

/-- The event of a run moves no other run and no source. -/
theorem System.alone_of_step {s t : State ι σ β} {e : Event ι σ} {i : ι}
    (h : sys.step s e = some t) (hactor : e.actor = some i) : s.Alone i t := by
  have hother {run : Run β} (j : ι) (hj : j ≠ i) : Function.update s.runs i run j = s.runs j :=
    Function.update_of_ne hj run s.runs
  cases System.transition_of_step h with
  | source => simp [Event.actor] at hactor
  | performed | retried | advanced =>
    obtain rfl := Option.some.inj hactor
    exact ⟨rfl, fun j hj => hother j hj⟩
  | failed hactor' =>
    obtain rfl := Option.some.inj (hactor'.symm.trans hactor)
    exact ⟨rfl, fun j hj => hother j hj⟩

/-- A serviceable run stays so when it acts. -/
theorem System.Serviceable.step {source : σ} {store : Text → Option Text}
    {es : List (Event ι σ)} {s t : State ι σ β} {e : Event ι σ} {i : ι}
    (h : sys.Serviceable s i)
    (hreach : exec sys.step (State.start sys source store) es = some s)
    (hstep : sys.step s e = some t) (hactor : e.actor = some i) : sys.Serviceable t i where
  reads hpath f u hf hu := by
    rw [(System.alone_of_step hstep hactor).source_eq]
    exact h.reads hpath f u (fun v hv => (hf v hv).of_step hreach hstep hactor)
      fun v hv => (hu v hv).of_step hreach hstep hactor
  storable v hv := h.storable v (hv.of_step hreach hstep hactor)

/-! ### Step by step -/

/-- A reachable state with a serviceable run whose attempt has not failed. -/
structure System.Ready (sys : System ι σ β) (source : σ) (store : Text → Option Text) (i : ι)
    (s : State ι σ β) : Prop where
  /-- The state is reachable. -/
  reached : ∃ es, exec sys.step (State.start sys source store) es = some s
  /-- The run is serviceable. -/
  serviceable : sys.Serviceable s i
  /-- The attempt has not failed. -/
  unfailed : (s.runs i).failed = false

section Ready

variable {source : σ} {store : Text → Option Text} {i : ι} {s t : State ι σ β}

/-- A run that acts without failing is ready for its next event. -/
theorem System.Ready.step {e : Event ι σ} (h : sys.Ready source store i s)
    (hstep : sys.step s e = some t) (hactor : e.actor = some i)
    (hunfailed : (t.runs i).failed = false) : sys.Ready source store i t := by
  obtain ⟨es, hes⟩ := h.reached
  refine ⟨⟨es ++ [e], exec_append_eq_some.mpr ⟨s, hes, ?_⟩⟩, h.serviceable.step hes hstep hactor,
    hunfailed⟩
  exact exec_cons_eq_some.mpr ⟨t, hstep, rfl⟩

/-- The next step of a serviceable run does not raise. -/
theorem System.Ready.effect (h : sys.Ready source store i s) {step : Step} {rest : List Step}
    (htodo : (s.runs i).todo = step :: rest) (outside : Outside) :
    ∃ effect, step.effect (sys.dag i) (sys.info i) outside s.source
      (s.store (sys.dag i).dagId) (s.runs i) = .ok effect := by
  obtain ⟨es, hes⟩ := h.reached
  cases heffect : step.effect (sys.dag i) (sys.info i) outside s.source
      (s.store (sys.dag i).dagId) (s.runs i) with
  | ok effect => exact ⟨effect, rfl⟩
  | error e =>
    have htracks := (System.simulates_of_exec hes).tracks i
    rcases htracks.raises_only (System.prepared_of_exec hes i) (System.fromText_of_exec hes i)
      htodo heffect with ⟨f, u, hstep, hfrom, hto, hread⟩ | ⟨v, -, hto, hstorable⟩
    · have hmem : step ∈ (sys.dag i).source.steps .sparkRun := by
        have hmem := htracks.suffix.subset (htodo ▸ List.mem_cons_self)
        rw [htracks.task_eq htodo] at hmem
        rcases hstep with rfl | rfl <;> exact hmem
      have hpath : (sys.dag i).source.config.isPath = false :=
        Source.isPath_of_evaluates_mem hstep hmem
      obtain ⟨b, hb⟩ := h.serviceable.reads hpath f u
        (fun v hv => .fetchedFrom (hv ▸ hfrom)) fun v hv => .fetchedTo (hv ▸ hto)
      rw [hread] at hb
      cases hb
    · exact absurd (h.serviceable.storable v (.fetchedTo hto)) hstorable

/-- A ready run performs its next step. -/
theorem System.Ready.perform (h : sys.Ready source store i s) {step : Step} {rest : List Step}
    (htodo : (s.runs i).todo = step :: rest) (outside : Outside) :
    ∃ t, sys.step s (.perform i outside) = some t ∧ sys.Ready source store i t ∧ s.Alone i t ∧
      (t.runs i).task = (s.runs i).task ∧ (t.runs i).todo = rest := by
  obtain ⟨es, hes⟩ := h.reached
  obtain ⟨effect, heffect⟩ := h.effect htodo outside
  have hstep : sys.step s (.perform i outside) = some
      (((s.setRun i { effect.run with todo := rest }).upsert (sys.dag i).dagId
        effect.upsert).emit i effect.emitted) := by
    simp only [System.step, h.unfailed, htodo, System.performStep_of_ok heffect]
  have hrun : (((s.setRun i { effect.run with todo := rest }).upsert (sys.dag i).dagId
      effect.upsert).emit i effect.emitted).runs i = { effect.run with todo := rest } :=
    Function.update_self ..
  have hunfailed : effect.run.failed = false := by
    rw [(System.simulates_of_exec hes).store_eq] at heffect
    exact (((System.simulates_of_exec hes).tracks i).justified h.unfailed htodo heffect).unfailed
  refine ⟨_, hstep, h.step hstep rfl ?_, System.alone_of_step hstep rfl, ?_, ?_⟩
  · rw [hrun]
    exact hunfailed
  · rw [hrun]
    exact (Step.gives_of_ok heffect).task_eq
  · rw [hrun]

/-- A ready run performs all its remaining steps. -/
theorem System.Ready.perform_all (h : sys.Ready source store i s) (outside : Outside) :
    ∃ t, exec sys.step s ((s.runs i).todo.map fun _ => .perform i outside) = some t ∧
      sys.Ready source store i t ∧ s.Alone i t ∧ (t.runs i).task = (s.runs i).task ∧
      (t.runs i).todo = [] := by
  generalize htodo : (s.runs i).todo = todo
  induction todo generalizing s with
  | nil => exact ⟨s, rfl, h, ⟨rfl, fun _ _ => rfl⟩, rfl, htodo⟩
  | cons step rest ih =>
    obtain ⟨t, hstep, ht, halone, htask, hrest⟩ := h.perform htodo outside
    obtain ⟨u, hexec, hu, halone', htask', hnil⟩ := ih ht hrest
    exact ⟨u, exec_cons_eq_some.mpr ⟨t, hstep, hexec⟩, hu, halone.trans halone',
      htask'.trans htask, hnil⟩

/-- A ready run completes its task and starts the next one. -/
theorem System.Ready.task (h : sys.Ready source store i s) (htask : (s.runs i).task ≠ .done)
    (outside : Outside) :
    ∃ t, exec sys.step s (taskEvents (s.runs i).todo i outside) = some t ∧
      sys.Ready source store i t ∧ s.Alone i t ∧ (t.runs i).task = (s.runs i).task.following ∧
      (t.runs i).todo = (sys.dag i).source.steps (s.runs i).task.following := by
  obtain ⟨u, hexec, hu, halone, htask', hnil⟩ := h.perform_all outside
  have hstep : sys.step u (.next i) = some ((u.setRun i ((u.runs i).advance (sys.dag i))).emit i
      (some (.finished (u.runs i).task))) := by
    simp only [System.step]
    exact if_pos ⟨hu.unfailed, hnil, htask' ▸ htask⟩
  have hrun : ((u.setRun i ((u.runs i).advance (sys.dag i))).emit i
      (some (.finished (u.runs i).task))).runs i = (u.runs i).advance (sys.dag i) :=
    Function.update_self ..
  refine ⟨_, exec_append_eq_some.mpr ⟨u, hexec, exec_cons_eq_some.mpr ⟨_, hstep, rfl⟩⟩,
    hu.step hstep rfl ?_, halone.trans (System.alone_of_step hstep rfl), ?_, ?_⟩
  · rw [hrun]
    rfl
  · rw [hrun, ← htask']
    rfl
  · rw [hrun, ← htask']
    rfl

/-- A ready run that goes through its task goes through the later ones. -/
theorem System.Ready.all_tasks (h : sys.Ready source store i s) (htask : (s.runs i).task ≠ .done)
    (outside : Outside) :
    ∃ t, exec sys.step s (taskEvents (s.runs i).todo i outside ++
        (s.runs i).task.later.flatMap fun task =>
          taskEvents ((sys.dag i).source.steps task) i outside) = some t ∧
      sys.Ready source store i t ∧ s.Alone i t ∧ (t.runs i).task = .done := by
  obtain ⟨t, hexec, ht, halone, htask', htodo⟩ := h.task htask outside
  cases hnow : (s.runs i).task with
  | done => exact absurd hnow htask
  | metricPush =>
    rw [hnow] at htask'
    exact ⟨t, exec_append_eq_some.mpr ⟨t, hexec, rfl⟩, ht, halone, htask'⟩
  | sparkRun =>
    rw [hnow] at htask' htodo
    have hmetric : (t.runs i).task = .metricPush := htask'
    obtain ⟨u, hexec', hu, halone', htask'', -⟩ := ht.task (by simp [hmetric]) outside
    rw [hmetric] at htask''
    rw [htodo] at hexec'
    refine ⟨u, exec_append_eq_some.mpr ⟨t, hexec, ?_⟩, hu, halone.trans halone', htask''⟩
    simpa [Task.later, Task.following] using hexec'
  | init =>
    rw [hnow] at htask' htodo
    have hspark : (t.runs i).task = .sparkRun := htask'
    obtain ⟨u, hexec', hu, halone', htask'', htodo'⟩ := ht.task (by simp [hspark]) outside
    rw [hspark] at htask'' htodo'
    rw [htodo] at hexec'
    have hmetric : (u.runs i).task = .metricPush := htask''
    obtain ⟨w, hexec'', hw, halone'', hdone, -⟩ := hu.task (by simp [hmetric]) outside
    rw [hmetric] at hdone
    rw [htodo'] at hexec''
    refine ⟨w, exec_append_eq_some.mpr ⟨t, hexec, ?_⟩, hw,
      (halone.trans halone').trans halone'', hdone⟩
    have hboth := exec_append_eq_some.mpr ⟨u, hexec', hexec''⟩
    simpa [Task.later, Task.following] using hboth

end Ready

/-- A retry puts a run back to the beginning of its task. -/
theorem Run.restart_spec (run : Run β) (dag : Dag σ β) (hdone : run.task ≠ .done) :
    (run.restart dag).failed = false ∧ (run.restart dag).todo = dag.source.steps run.task := by
  unfold restart
  cases htask : run.task with
  | init | sparkRun | metricPush => exact ⟨rfl, rfl⟩
  | done => exact absurd htask hdone

/-- A run that is serviceable in a reachable state is completed by its remaining events. -/
theorem System.exists_completion {source : σ} {store : Text → Option Text}
    {es : List (Event ι σ)} {s : State ι σ β} {i : ι}
    (h : exec sys.step (State.start sys source store) es = some s)
    (hserviceable : sys.Serviceable s i) (outside : Outside) :
    ∃ t, exec sys.step s ((sys.dag i).source.completion i outside (s.runs i)) = some t ∧
      s.Alone i t ∧ (t.runs i).task = .done := by
  by_cases hdone : (s.runs i).task = .done
  · exact ⟨s, by simp [Source.completion, hdone], ⟨rfl, fun _ _ => rfl⟩, hdone⟩
  cases hfailed : (s.runs i).failed with
  | false =>
    have hready : sys.Ready source store i s := ⟨⟨es, h⟩, hserviceable, hfailed⟩
    obtain ⟨t, hexec, -, halone, htask⟩ := hready.all_tasks hdone outside
    refine ⟨t, ?_, halone, htask⟩
    simpa [Source.completion, hdone, hfailed] using hexec
  | true =>
    have hstep : sys.step s (.retry i) = some (s.setRun i ((s.runs i).restart (sys.dag i))) := by
      simp only [System.step]
      exact if_pos hfailed
    have hrun : (s.setRun i ((s.runs i).restart (sys.dag i))).runs i =
        (s.runs i).restart (sys.dag i) := Function.update_self ..
    have htask := (s.runs i).restart_task (sys.dag i)
    obtain ⟨hunfailed, htodo⟩ := (s.runs i).restart_spec (sys.dag i) hdone
    have hready : sys.Ready source store i (s.setRun i ((s.runs i).restart (sys.dag i))) :=
      ⟨⟨es ++ [.retry i], exec_append_eq_some.mpr ⟨s, h, exec_cons_eq_some.mpr ⟨_, hstep, rfl⟩⟩⟩,
        hserviceable.step h hstep rfl, by rw [hrun]; exact hunfailed⟩
    obtain ⟨t, hexec, -, halone, hend⟩ :=
      hready.all_tasks (by rw [hrun, htask]; exact hdone) outside
    refine ⟨t, ?_, (System.alone_of_step hstep rfl).trans halone, hend⟩
    rw [hrun, htask, htodo] at hexec
    have hall := exec_cons_eq_some.mpr ⟨_, hstep, hexec⟩
    simpa [Source.completion, hdone, hfailed] using hall

end Completion

end BatchIngestion
