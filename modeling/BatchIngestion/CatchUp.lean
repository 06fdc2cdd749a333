import BatchIngestion.Completion
import BatchIngestion.HandOff
import BatchIngestion.SqlIngestion

/-!
# Catching up

A completed run has delivered its checkpoint. A run that computes its `checkpoint_to`
while its source stands still and is then left alone therefore leaves the maximum of
the source in the store, and for an incremental SQL source every row in the sink:
whatever has failed before, one good run makes up for it.
-/

namespace BatchIngestion

open Python Library

variable {ι σ β : Type}

/-! ### Completed runs have saved -/

/-- The metric task of a DAG is connected to the store. -/
def MetricPushOperator.Saves (op : MetricPushOperator) : Prop :=
  ∃ connId, op.checkpointConnId = some connId ∧ connId ≠ []

/-- The metric task of the DAG factory is connected to the store. -/
theorem DagFactory.saves_metricPush (dagId : Text) : (DagFactory.metricPush dagId).Saves :=
  ⟨_, rfl, by decide +kernel⟩

/-- The text of a checkpoint is not empty. -/
theorem ne_nil_of_checkpointText {t : Option CheckpointValue} {text : Text}
    (h : checkpointText (serialiseCheckpoint t) = .ok (some text)) : text ≠ [] := by
  obtain ⟨v, -, h⟩ := exists_of_checkpointText h
  cases v with
  | int n =>
    obtain ⟨s, hs, hsome⟩ := map_eq_ok_iff.mp h
    obtain rfl := Option.some.inj hsome
    unfold intStr at hs
    split at hs
    · obtain rfl := Except.ok.inj hs
      unfold intText
      split <;> simp
    · simp at hs
  | datetime d | str s =>
    simp only [CheckpointValue.serialise, TaggedCheckpoint.text, Except.ok.injEq] at h
    split at h
    · simp at h
    · obtain rfl := Option.some.inj h
      assumption

/-- A metric task that is connected to the store saves the text that it has pulled. -/
theorem MetricPushOperator.Saves.eq_of_checkpointToSave {op : MetricPushOperator} (h : op.Saves)
    {pulled : Pulled} {text : Text} {saved : Option Text}
    (hpulled : pulled.checkpointTo = some text)
    (hne : text ≠ []) (hsave : op.checkpointToSave pulled = .ok saved) : saved = some text := by
  obtain ⟨connId, hconn, hconnId⟩ := h
  simp only [MetricPushOperator.checkpointToSave, hpulled, hconn, hne, hconnId, or_self,
    if_false] at hsave
  obtain ⟨s, hs, rfl⟩ := map_eq_ok_iff.mp hsave
  unfold MetricPushOperator.textParameter at hs
  split at hs
  · simp at hs
  · rw [Except.ok.inj hs]

section Delivery

variable [DecidableEq ι] {sys : System ι σ β}

/-- A run has published its metric, and saved its `checkpoint_to` if that has a text. -/
structure Delivered (sys : System ι σ β) (log : List (ι × Action σ β)) (i : ι) : Prop where
  /-- The metric is published. -/
  published : ∃ payload, (i, .published payload) ∈ log ∧ (sys.dag i).metricPush.Reports payload
  /-- The checkpoint is saved. -/
  saved : ∀ t text, lastTo log i = some t →
    checkpointText (serialiseCheckpoint t) = .ok (some text) → (i, .saved text) ∈ log

/-- A run that is past its save step has delivered. -/
def State.Delivers (sys : System ι σ β) (s : State ι σ β) : Prop :=
  ∀ i, (s.runs i).task = .done ∨ (s.runs i).task = .metricPush ∧
    .saveCheckpoint ∉ (s.runs i).todo → Delivered sys s.log i

/-- What is delivered stays delivered. -/
theorem Delivered.cons {initial : Text → Option Text} {source : σ} {log : List (ι × Action σ β)}
    {i j : ι} {a : Action σ β} (h : Delivered sys log j)
    (hallowed : sys.Allowed initial source log i a)
    (hfin : Finished log j .init) : Delivered sys ((i, a) :: log) j where
  published := by
    obtain ⟨payload, hmem, hreports⟩ := h.published
    exact ⟨payload, List.mem_cons_of_mem _ hmem, hreports⟩
  saved t text hto htext := by
    rw [hallowed.lastTo_cons hfin] at hto
    exact List.mem_cons_of_mem _ (h.saved t text hto htext)

/-- The save step delivers. -/
theorem Tracks.delivered_of_save {log : List (ι × Action σ β)} {i : ι} {run : Run β}
    {rest : List Step} {p : Pulled} {saved : Option Text} (h : Tracks sys log i run)
    (hsaves : (sys.dag i).metricPush.Saves) (htodo : run.todo = .saveCheckpoint :: rest)
    (hp : run.pulled = some p) (hsave : (sys.dag i).metricPush.checkpointToSave p = .ok saved) :
    Delivered sys (extendLog log i (saved.map .saved)) i := by
  obtain ⟨htask, f, t, -, ht, -, htext⟩ := h.pulled_logged p hp
  have hpublish : Step.publish ∉ run.todo := by
    have hsuffix := h.suffix
    rw [htask, htodo] at hsuffix
    have hrest : rest = [] := by simpa [Source.steps, List.suffix_cons_iff] using hsuffix
    rw [htodo, hrest]
    decide
  obtain ⟨payload, hpublished, hreports⟩ := (h.publishes htask).resolve_left hpublish
  have hextend : log ⊆ extendLog log i (saved.map .saved) := by
    cases saved with
    | none => exact List.Subset.refl log
    | some text => exact List.subset_cons_self _ log
  refine ⟨⟨payload, hextend hpublished, hreports⟩, fun t' text hto' htext' => ?_⟩
  have hto : lastTo log i = some t' := by
    cases saved with
    | none => exact hto'
    | some text' => exact (newest_cons_of_none rfl i i log).symm.trans hto'
  obtain rfl : t = t' := Option.some.inj (ht.symm.trans hto)
  have hpulled : p.checkpointTo = some text := (Except.ok.inj (htext'.symm.trans htext)).symm
  rw [hsaves.eq_of_checkpointToSave hpulled (ne_nil_of_checkpointText htext') hsave]
  exact List.mem_cons_self

/-- What other runs deliver is not affected by the action of a run. -/
theorem State.Delivers.extend {initial : Text → Option Text} {s : State ι σ β}
    (h : s.Delivers sys) (hs : Simulates sys initial s) {i j : ι} {a : Option (Action σ β)}
    (hallowed : ∀ b, a = some b → sys.Allowed initial s.source s.log i b)
    (hj : (s.runs j).task = .done ∨ (s.runs j).task = .metricPush ∧
      .saveCheckpoint ∉ (s.runs j).todo) : Delivered sys (extendLog s.log i a) j := by
  cases a with
  | none => exact h j hj
  | some b =>
    have htask : (s.runs j).task ≠ .init := by
      rcases hj with hj | ⟨hj, -⟩ <;> simp [hj]
    exact (h j hj).cons (hallowed b rfl) ((hs.tracks j).init_finished htask)

/-- Every event keeps what is delivered, and the save step of a run delivers. -/
theorem State.Delivers.step {initial : Text → Option Text} {s t : State ι σ β} {e : Event ι σ}
    (h : s.Delivers sys) (hs : Simulates sys initial s) (hsaves : ∀ i, (sys.dag i).metricPush.Saves)
    (hstep : sys.step s e = some t) : t.Delivers sys := by
  have hother {i : ι} {run : Run β} {a : Option (Action σ β)}
      (hallowed : ∀ b, a = some b → sys.Allowed initial s.source s.log i b)
      (hi : run.task = .done ∨ run.task = .metricPush ∧ .saveCheckpoint ∉ run.todo →
        Delivered sys (extendLog s.log i a) i) (j : ι)
      (hj : (Function.update s.runs i run j).task = .done ∨
        (Function.update s.runs i run j).task = .metricPush ∧
          .saveCheckpoint ∉ (Function.update s.runs i run j).todo) :
      Delivered sys (extendLog s.log i a) j := by
    by_cases hij : j = i
    · subst hij
      rw [Function.update_self] at hj
      exact hi hj
    · rw [Function.update_of_ne hij] at hj
      exact h.extend hs hallowed hj
  cases System.transition_of_step hstep with
  | source => exact h
  | @performed i outside step rest effect hfailed htodo heffect =>
    have hgives := Step.gives_of_ok heffect
    rw [hs.store_eq] at heffect
    have hjust := (hs.tracks i).justified hfailed htodo heffect
    refine hother (a := effect.emitted) hjust.allowed fun hi => ?_
    by_cases hstepSave : step = .saveCheckpoint
    · subst hstepSave
      cases hgives with
      | saved hp htext => exact (hs.tracks i).delivered_of_save (hsaves i) htodo hp htext
      | nothing hquiet => simp [Step.quiet] at hquiet
    · refine h.extend hs hjust.allowed (hi.imp (fun hdone => ?_) fun ⟨htask, hmem⟩ => ?_)
      · exact hgives.task_eq.symm.trans hdone
      · refine ⟨hgives.task_eq.symm.trans htask, ?_⟩
        rw [htodo, List.mem_cons, not_or]
        exact ⟨Ne.symm hstepSave, hmem⟩
  | @failed _ i error metricUp hactor =>
    unfold System.fail
    dsimp only
    have hi : (s.runs i).task = .done ∨ (s.runs i).task = .metricPush ∧
        .saveCheckpoint ∉ (s.runs i).todo → Delivered sys s.log i := h i
    split
    · exact hother (a := some _) (fun b hb => Option.some.inj hb ▸ .reportedFailure)
        fun hi => h.extend hs (fun b hb => Option.some.inj hb ▸ .reportedFailure) hi
    · exact hother (a := none) (by simp) hi
  | @retried i =>
    refine hother (a := none) (by simp) ?_
    unfold Run.restart
    cases htask : (s.runs i).task with
    | init | sparkRun | metricPush => simp [Source.steps]
    | done => exact fun _ => h i (.inl htask)
  | @advanced i htodo htask =>
    have hallowed : sys.Allowed initial s.source s.log i (.finished (s.runs i).task) :=
      ((hs.tracks i).advance htodo htask).2
    refine hother (a := some _) (fun b hb => Option.some.inj hb ▸ hallowed) fun hi => ?_
    cases hnow : (s.runs i).task with
    | done => exact absurd hnow htask
    | init | sparkRun => simp [Run.advance, hnow, Task.following, Source.steps] at hi
    | metricPush =>
      have hpast : (s.runs i).task = .done ∨ (s.runs i).task = .metricPush ∧
          .saveCheckpoint ∉ (s.runs i).todo := .inr ⟨hnow, by simp [htodo]⟩
      rw [hnow] at hallowed
      exact h.extend hs (fun b hb => Option.some.inj hb ▸ hallowed) hpast

/-- A completed run has published its metric and saved its `checkpoint_to`. -/
theorem System.delivers_of_exec {source : σ} {store : Text → Option Text}
    {es : List (Event ι σ)} {s : State ι σ β} (hsaves : ∀ i, (sys.dag i).metricPush.Saves)
    (h : exec sys.step (State.start sys source store) es = some s) : s.Delivers sys := by
  have hstart : (State.start sys source store).Delivers sys := fun i hi => by
    rcases hi with hi | ⟨hi, -⟩ <;> cases hi
  have hkeep {s t : State ι σ β} {e : Event ι σ} (hs : Simulates sys store s ∧ s.Delivers sys)
      (hstep : sys.step s e = some t) : Simulates sys store t ∧ t.Delivers sys :=
    ⟨(sys.step_refines hs.1 hstep).1, hs.2.step hs.1 hsaves hstep⟩
  exact (exec_invariant hkeep ⟨simulates_start sys source store, hstart⟩ h).2

end Delivery

/-! ### A run that catches up -/

/-- The maximum that the source of a run has in a state. -/
def System.maximum (sys : System ι σ β) (s : State ι σ β) (i : ι) : Option CheckpointValue :=
  InitOperator.fetchCheckpointTo (sys.dag i).source.readType (sys.dag i).source.config
    ((sys.dag i).source.native s.source)

/-- A run has yet to compute its `checkpoint_to`. -/
def Run.Pending (run : Run β) : Prop :=
  run.task = .init ∧ (run.failed = true ∨ .fetchCheckpointTo ∈ run.todo)

/-- An event of a run while its source is up. -/
def Event.ActsWell (i : ι) (e : Event ι σ) : Prop :=
  e.actor = some i ∧ ∀ outside, e = .perform i outside → outside.sourceUp = true

/-- The events that complete a run are events of the run. -/
theorem Source.actsWell_of_mem_completion {source : Source σ β} {i : ι} {outside : Outside}
    {run : Run β} (hup : outside.sourceUp = true) :
    ∀ e ∈ (source.completion i outside run : List (Event ι σ)), e.ActsWell i := by
  have htask (todo : List Step) : ∀ e ∈ (taskEvents todo i outside : List (Event ι σ)),
      e.ActsWell i := by
    intro e he
    rcases List.mem_append.mp he with he | he
    · obtain ⟨-, -, rfl⟩ := List.mem_map.mp he
      refine ⟨rfl, fun outside' heq => ?_⟩
      obtain ⟨-, rfl⟩ := Event.perform.inj heq
      exact hup
    · obtain rfl := List.mem_singleton.mp he
      exact ⟨rfl, by simp⟩
  intro e he
  unfold completion at he
  split at he
  · simp at he
  · rcases List.mem_append.mp he with he | he
    · split at he
      · rcases List.mem_cons.mp he with rfl | he
        · exact ⟨rfl, by simp⟩
        · exact htask _ e he
      · exact htask _ e he
    · obtain ⟨task, -, he⟩ := List.mem_flatMap.mp he
      exact htask _ e he

section CatchUp

variable [DecidableEq ι] {sys : System ι σ β} {s t : State ι σ β} {i : ι} {e : Event ι σ}

/-- A run has yet to compute its `checkpoint_to`, or the maximum is the last one that it has
computed. -/
def State.Computes (s : State ι σ β) (i : ι) (maximum : Option CheckpointValue) : Prop :=
  (s.runs i).Pending ∨ lastTo s.log i = some maximum

/-- Only one step computes a `checkpoint_to`. -/
theorem Step.Gives.lastTo_eq {dag : Dag σ β} {info : RunInfo} {outside : Outside} {source : σ}
    {row : Option Text} {run : Run β} {step : Step} {effect : Effect σ β}
    (h : step.Gives dag info outside source row run effect) (hne : step ≠ .fetchCheckpointTo)
    (log : List (ι × Action σ β)) (i : ι) :
    lastTo (extendLog log i effect.emitted) i = lastTo log i := by
  cases h with
  | fetchedTo => exact absurd rfl hne
  | @saved p text =>
    cases text with
    | none => rfl
    | some text => exact newest_cons_of_none rfl i i log
  | fetchedFrom | counted | scanned | written | copied | published =>
    exact newest_cons_of_none rfl i i log
  | pushed | decoded | pulled | nothing => rfl

/-- A run that acts while its source is up computes the maximum. -/
theorem State.Computes.step (h : s.Computes i (sys.maximum s i)) (hstep : sys.step s e = some t)
    (hacts : e.ActsWell i) : t.Computes i (sys.maximum s i) := by
  obtain ⟨hactor, hup⟩ := hacts
  have hself {run : Run β} (hrun : run.Pending) : (Function.update s.runs i run i).Pending := by
    rw [Function.update_self]
    exact hrun
  cases System.transition_of_step hstep with
  | source => simp [Event.actor] at hactor
  | @performed j outside step rest effect hfailed htodo heffect =>
    obtain rfl : j = i := Option.some.inj hactor
    have hgives := Step.gives_of_ok heffect
    by_cases hcompute : step = .fetchCheckpointTo
    · subst hcompute
      cases hgives with
      | fetchedTo hmax =>
        rw [hup outside rfl, if_pos rfl] at hmax
        subst hmax
        exact .inr (lastTo_fetchedTo s.log j _)
      | nothing hquiet => simp [Step.quiet] at hquiet
    · rcases h with ⟨htask, hpending⟩ | hto
      · have hmem := hpending.resolve_left (by simp [hfailed])
        rw [htodo] at hmem
        have hrun : Run.Pending { effect.run with todo := rest } :=
          ⟨hgives.task_eq.trans htask,
            .inr ((List.mem_cons.mp hmem).resolve_left (Ne.symm hcompute))⟩
        exact .inl (hself hrun)
      · exact .inr ((hgives.lastTo_eq hcompute s.log j).trans hto)
  | @failed _ j error metricUp hactor' =>
    obtain rfl : j = i := Option.some.inj (hactor'.symm.trans hactor)
    rcases h with ⟨htask, -⟩ | hto
    · have hrun : Run.Pending { s.runs j with failed := true } := ⟨htask, .inl rfl⟩
      exact .inl (hself hrun)
    · refine .inr ?_
      unfold System.fail
      dsimp only
      split
      · exact (newest_cons_of_none rfl j j s.log).trans hto
      · exact hto
  | @retried j =>
    obtain rfl : j = i := Option.some.inj hactor
    rcases h with ⟨htask, -⟩ | hto
    · have hrun : Run.Pending ((s.runs j).restart (sys.dag j)) := by
        simp [Run.Pending, Run.restart, htask, Source.steps]
      exact .inl (hself hrun)
    · exact .inr hto
  | @advanced j htodo htask =>
    obtain rfl : j = i := Option.some.inj hactor
    rcases h with ⟨-, hpending⟩ | hto
    · have hunfailed : (s.runs j).failed = false := by
        simp only [System.step] at hstep
        split at hstep
        · rename_i hnext
          exact hnext.1
        · simp at hstep
      simp [hunfailed, htodo] at hpending
    · exact .inr ((newest_cons_of_none rfl j j s.log).trans hto)

/-- What a run has saved is what the row of its DAG holds. -/
def System.HoldsSaved (sys : System ι σ β) (s : State ι σ β) (i : ι) : Prop :=
  ∀ text, (i, .saved text) ∈ s.log → s.store (sys.dag i).dagId = some text

/-- Nobody but the run itself overwrites what it has saved when it alone acts. -/
theorem System.HoldsSaved.step {source : σ} {store : Text → Option Text} {es : List (Event ι σ)}
    (h : sys.HoldsSaved s i) (hreach : exec sys.step (State.start sys source store) es = some s)
    (hstep : sys.step s e = some t) (hactor : e.actor = some i) : sys.HoldsSaved t i := by
  have hs := System.simulates_of_exec hreach
  obtain ⟨ht, hledger⟩ := sys.step_refines hs hstep
  intro text hmem
  cases hledger with
  | moved hevent => simp [hevent, Event.actor] at hactor
  | silent _ _ hlog =>
    have hstore : t.store = s.store := by rw [ht.store_eq, hs.store_eq, hlog]
    rw [hstore]
    exact h text (hlog ▸ hmem)
  | @acted j a hactor' _ hlog hallowed _ =>
    obtain rfl : j = i := Option.some.inj (hactor'.symm.trans hactor)
    have hordered := (System.wellOrdered_of_exec hreach).cons hallowed
    rw [hlog] at hmem
    by_cases ha : ∃ text', a = .saved text'
    · obtain ⟨text', rfl⟩ := ha
      -- both texts are that of the last `checkpoint_to`
      obtain ⟨u, hu, htext⟩ := hordered.saved_to j text hmem
      obtain ⟨u', hu', htext'⟩ := hordered.saved_to j text' List.mem_cons_self
      obtain rfl : u = u' := Option.some.inj (hu.symm.trans hu')
      obtain rfl : text = text' := Option.some.inj (Except.ok.inj (htext.symm.trans htext'))
      rw [ht.store_eq, hlog, System.stored_saved, Function.update_self]
    · have hne : ∀ text', a ≠ .saved text' := fun text' h' => ha ⟨text', h'⟩
      rw [ht.store_eq, hlog, sys.stored_cons_of_ne store j hne, ← hs.store_eq]
      refine h text ((did_cons.mp hmem).resolve_left fun hnew => hne text hnew.2)

/-- A run that acts while its source is up ends with the maximum as its `checkpoint_to`, and
with the row of its DAG as it has saved it. -/
theorem System.caughtUp_of_exec {source : σ} {store : Text → Option Text} {es fs : List (Event ι σ)}
    (hreach : exec sys.step (State.start sys source store) es = some s)
    (hexec : exec sys.step s fs = some t) (hacts : ∀ e ∈ fs, e.ActsWell i)
    (hcomputes : s.Computes i (sys.maximum s i)) (hholds : sys.HoldsSaved s i) :
    t.Computes i (sys.maximum s i) ∧ sys.HoldsSaved t i := by
  have hkeep {u v : State ι σ β} {e : Event ι σ}
      (hu : (∃ es, exec sys.step (State.start sys source store) es = some u) ∧
        sys.maximum u i = sys.maximum s i ∧ u.Computes i (sys.maximum s i) ∧ sys.HoldsSaved u i)
      (he : e.ActsWell i) (hstep : sys.step u e = some v) :
      (∃ es, exec sys.step (State.start sys source store) es = some v) ∧
        sys.maximum v i = sys.maximum s i ∧ v.Computes i (sys.maximum s i) ∧
        sys.HoldsSaved v i := by
    obtain ⟨⟨es, hes⟩, hmax, hcomputes, hholds⟩ := hu
    have hsource := (System.alone_of_step hstep he.1).source_eq
    refine ⟨⟨es ++ [e], exec_append_eq_some.mpr ⟨u, hes, exec_cons_eq_some.mpr ⟨v, hstep, rfl⟩⟩⟩,
      ?_, ?_, hholds.step hes hstep he.1⟩
    · unfold System.maximum at *
      rw [hsource]
      exact hmax
    · rw [← hmax] at hcomputes ⊢
      exact hcomputes.step hstep he
  exact (exec_invariant_along hkeep ⟨⟨es, hreach⟩, rfl, hcomputes, hholds⟩
    (along_of_mem hacts) hexec).2.2

/-- A run that has yet to compute its `checkpoint_to` is completed while its source is up and
serviceable: the maximum of the source becomes its `checkpoint_to`, and the row of its DAG
holds the text of the maximum. -/
theorem System.exists_catchUp {source : σ} {store : Text → Option Text} {es : List (Event ι σ)}
    {outside : Outside} (hsaves : ∀ i, (sys.dag i).metricPush.Saves)
    (h : exec sys.step (State.start sys source store) es = some s)
    (hpending : (s.runs i).Pending) (hserviceable : sys.Serviceable s i)
    (hup : outside.sourceUp = true) :
    ∃ t, exec sys.step s ((sys.dag i).source.completion i outside (s.runs i)) = some t ∧
      t.source = s.source ∧ lastTo t.log i = some (sys.maximum s i) ∧
      ∀ v text, sys.maximum s i = some v → v.serialise.text = .ok (some text) →
        t.store (sys.dag i).dagId = some text := by
  obtain ⟨t, hexec, halone, hdone⟩ := System.exists_completion h hserviceable outside
  have hreach := exec_append_eq_some.mpr ⟨s, h, hexec⟩
  have htracks := (System.simulates_of_exec h).tracks i
  have hnone : sys.HoldsSaved s i := by
    intro text hmem
    have hordered := System.wellOrdered_of_exec h
    have hfin := hordered.spark_init (hordered.saved_spark i text hmem)
    exact absurd hfin (htracks.init_open hpending.1)
  obtain ⟨hcomputes, hholds⟩ := System.caughtUp_of_exec h hexec
    (Source.actsWell_of_mem_completion hup) (.inl hpending) hnone
  have hto : lastTo t.log i = some (sys.maximum s i) :=
    hcomputes.resolve_left fun hpending' => by simp [hpending'.1] at hdone
  refine ⟨t, hexec, halone.source_eq, hto, fun v text hmax htext => ?_⟩
  exact hholds text ((System.delivers_of_exec hsaves hreach i (.inl hdone)).saved _ text hto
    (by rw [hmax]; exact htext))

end CatchUp

/-! ### SQL sources catch up -/

section Sql

variable {kind : ColumnKind} {cfg : TableSourceConfig}
  {custom : Text → List Row → Except PyExc (List Row)}

/-- A value of a column that can be written formats as the text of its literal. -/
theorem ColumnValue.exists_formatCheckpoint {v : ColumnValue} (h : v.checkpoint.Storable) :
    ∃ text, formatCheckpoint v.checkpoint = .ok text := by
  cases v with
  | timestamp d => exact ⟨_, rfl⟩
  | int n =>
    obtain ⟨text, htext, -⟩ := h
    obtain ⟨s, hs, -⟩ := map_eq_ok_iff.mp htext
    exact ⟨s, hs⟩

/-- A read between values of the column succeeds. -/
theorem exists_sqlRead (hcfg : cfg.Incremental) (hschema : cfg.schema ≠ []) (hkind : kind ≠ .aware)
    (table : Table kind) {f t : Option CheckpointValue}
    (hf : ∀ v, f = some v → ∃ w : ColumnValue, kind.holds w = true ∧ w.checkpoint = v ∧ v.Storable)
    (ht : ∀ v, t = some v →
      ∃ w : ColumnValue, kind.holds w = true ∧ w.checkpoint = v ∧ v.Storable) :
    ∃ b, sqlRead cfg custom table f t = .ok b := by
  have hfull (hnone : f = none ∨ t = none) : ∃ b, sqlRead cfg custom table f t = .ok b := by
    have hquery : buildReadQuery cfg f t = .ok (.table cfg.schema cfg.table) := by
      simp only [buildReadQuery, hcfg.no_query]
      rcases hnone with rfl | rfl
      · cases cfg.checkpointColumn.getD [] <;> rfl
      · cases cfg.checkpointColumn.getD [] <;> cases f <;> rfl
    refine ⟨table.rows, ?_⟩
    rw [sqlRead, hquery, ok_bind, hcfg.effectiveQuery_eq, ok_bind, ReadQuery.eval, if_neg hschema]
  cases f with
  | none => exact hfull (.inl rfl)
  | some f =>
    cases t with
    | none => exact hfull (.inr rfl)
    | some t =>
      obtain ⟨low, hlow, rfl, hlowStorable⟩ := hf _ rfl
      obtain ⟨high, hhigh, rfl, hhighStorable⟩ := ht _ rfl
      obtain ⟨fromVal, hfrom⟩ := low.exists_formatCheckpoint hlowStorable
      obtain ⟨toVal, hto⟩ := high.exists_formatCheckpoint hhighStorable
      obtain ⟨c, column, hcolumn⟩ := List.exists_cons_of_ne_nil hcfg.column
      have hquery : buildReadQuery cfg (some low.checkpoint) (some high.checkpoint) =
          .ok (.window cfg.schema cfg.table (c :: column) fromVal toVal) := by
        simp only [buildReadQuery, hcfg.no_query, hcolumn, hfrom, hto, ok_bind]
        rfl
      have hclause : table.rows.all fun row =>
          (whereClause low.literal high.literal row).isSome := by
        rw [List.all_eq_true]
        intro row hrow
        have htyped := table.typed row hrow
        simp [whereClause, ColumnValue.lt_literal hkind hlow hhigh,
          ColumnValue.rankFor_literal htyped hlow, ColumnValue.rankFor_literal htyped hhigh]
      rw [sqlRead, hquery, ok_bind, hcfg.effectiveQuery_eq, ok_bind, ReadQuery.eval, if_neg hschema]
      simp only [SqlLiteral.ofText_formatCheckpoint hfrom, SqlLiteral.ofText_formatCheckpoint hto,
        hclause, if_true]
      exact ⟨_, rfl⟩

/-- The text of a value of a column is not missing. -/
theorem ColumnValue.exists_text {v : ColumnValue} (h : v.checkpoint.Storable) :
    ∃ text, v.checkpoint.serialise.text = .ok (some text) := by
  obtain ⟨text, htext, -⟩ := h
  cases v with
  | int n =>
    obtain ⟨s, -, rfl⟩ := map_eq_ok_iff.mp htext
    exact ⟨s, htext⟩
  | timestamp d =>
    have hne : isoformat 'T' d ≠ [] := by
      intro hnil
      have hread := fromisoformat_isoformat 'T' d
      rw [hnil] at hread
      exact absurd hread (by simp [fromisoformat])
    exact ⟨isoformat 'T' d, by
      simp [checkpoint, CheckpointValue.serialise, TaggedCheckpoint.text, hne]⟩

variable [DecidableEq ι] {readType : ReadAdapterType} {countRecords : Bool} {dagId : Text}
  {info : ι → RunInfo} {table : Table kind} {store : Text → Option Text}
  {es : List (Event ι (Table kind))} {s : State ι (Table kind) (List Row)} {i : ι}

/-- Overlapping runs over a SQL source keep the invariant of complete ingestion. -/
theorem sqlIngestion_noneSkipped (hread : readType = .sql ∨ readType = .mysql)
    (hcfg : cfg.Incremental) (hkind : kind ≠ .aware) (hstore : store dagId = none)
    (h : exec (DagFactory.oneDag dagId (sqlSource readType cfg countRecords custom) info
        Table.inserts).step
      (State.start (DagFactory.oneDag dagId (sqlSource readType cfg countRecords custom) info
        Table.inserts) table store) es = some s) :
    NoneSkipped (DagFactory.oneDag dagId (sqlSource readType cfg countRecords custom) info
      Table.inserts) store dagId s.source s.log :=
  System.ledger_invariant
    (NoneSkipped (DagFactory.oneDag dagId (sqlSource readType cfg countRecords custom) info
      Table.inserts) store dagId) (noneSkipped_nil hstore table)
    (fun hinv hmoves => hinv.of_inserts hmoves)
    (fun hinv hallowed => hinv.cons (fun _ => rfl) (fun _ => reportsMaximum_sqlSource hcfg hread)
      hallowed fun _ _ => readsWindow_sqlSource hcfg hkind _ _ _) h

/-- What can become a checkpoint of a run over a SQL source is a value of the column: one that
was reported, or the value of a row. -/
theorem held_of_known (hread : readType = .sql ∨ readType = .mysql) (hcfg : cfg.Incremental)
    (hkind : kind ≠ .aware) (hstore : store dagId = none)
    (h : exec (DagFactory.oneDag dagId (sqlSource readType cfg countRecords custom) info
        Table.inserts).step
      (State.start (DagFactory.oneDag dagId (sqlSource readType cfg countRecords custom) info
        Table.inserts) table store) es = some s) {v : CheckpointValue}
    (hknown : (DagFactory.oneDag dagId (sqlSource readType cfg countRecords custom) info
      Table.inserts).Known s i v) :
    ∃ w : ColumnValue, kind.holds w = true ∧ w.checkpoint = v ∧
      (v ∈ reportedIn s.log ∨ ∃ row ∈ s.source.rows, row.value = w) := by
  have hinv := sqlIngestion_noneSkipped hread hcfg hkind hstore h
  have hwatermark {v : CheckpointValue} (hv : IsWatermark s.source s.log v) :
      ∃ w : ColumnValue, kind.holds w = true ∧ w.checkpoint = v ∧
        (v ∈ reportedIn s.log ∨ ∃ row ∈ s.source.rows, row.value = w) := by
    obtain ⟨w, hheld, heq, hreported, -⟩ := hv
    exact ⟨w, hheld, heq, .inl hreported⟩
  cases hknown with
  | stored htext =>
    rw [(System.simulates_of_exec h).store_eq] at htext
    exact hwatermark (hinv.stored_watermark _ htext)
  | fetchedFrom hfrom => exact hwatermark (hinv.from_watermark i v hfrom)
  | fetchedTo hto =>
    have hreported := mem_reportedIn_of_lastTo hto
    obtain ⟨w, hheld, heq⟩ := hinv.reported_held v hreported
    exact ⟨w, hheld, heq, .inl hreported⟩
  | maximum hmax =>
    obtain ⟨m, hm, heq⟩ := (reportsMaximum_sqlSource hcfg hread).maximum hmax
    obtain ⟨row, hrow, hvalue⟩ := Option.map_eq_some_iff.mp hm
    exact ⟨m, (Table.maximum_spec hm).1, heq, .inr ⟨row, List.argmax_mem hrow, hvalue⟩⟩

/-- A run over a SQL source is serviceable when the values that were reported and the values of
the table can be written. -/
theorem sqlIngestion_serviceable (hread : readType = .sql ∨ readType = .mysql)
    (hcfg : cfg.Incremental) (hschema : cfg.schema ≠ []) (hkind : kind ≠ .aware)
    (hstore : store dagId = none)
    (h : exec (DagFactory.oneDag dagId (sqlSource readType cfg countRecords custom) info
        Table.inserts).step
      (State.start (DagFactory.oneDag dagId (sqlSource readType cfg countRecords custom) info
        Table.inserts) table store) es = some s)
    (hreported : ∀ v ∈ reportedIn s.log, v.Storable)
    (hrows : ∀ row ∈ s.source.rows, row.value.checkpoint.Storable) (i : ι) :
    (DagFactory.oneDag dagId (sqlSource readType cfg countRecords custom) info
      Table.inserts).Serviceable s i := by
  have hknown {v : CheckpointValue} (hv : (DagFactory.oneDag dagId
      (sqlSource readType cfg countRecords custom) info Table.inserts).Known s i v) :
      ∃ w : ColumnValue, kind.holds w = true ∧ w.checkpoint = v ∧ v.Storable := by
    obtain ⟨w, hheld, rfl, hv | ⟨row, hrow, rfl⟩⟩ := held_of_known hread hcfg hkind hstore h hv
    · exact ⟨w, hheld, rfl, hreported _ hv⟩
    · exact ⟨row.value, hheld, rfl, hrows row hrow⟩
  refine ⟨fun _ f t hf ht => ?_, fun v hv => ?_⟩
  · exact exists_sqlRead hcfg hschema hkind s.source (fun v hv => hknown (hf v hv))
      fun v hv => hknown (ht v hv)
  · obtain ⟨w, -, -, hstorable⟩ := hknown hv
    exact hstorable

end Sql

/-! ### An example -/

/-- The Spark task of the first run fails. -/
def failedOrder : List (Event ℕ (Table .integer)) :=
  List.replicate 9 (.perform 1 .up) ++ [.next 1, .raise 1 [] false]

/-- The state after the failure. -/
theorem exec_failedOrder :
    ∃ s, exec ordersSystem.step oneOrder failedOrder = some s ∧
      reportedIn s.log = [.int 7] ∧ s.source.rows = [⟨0, .int 7⟩] ∧
      (s.runs 1).task = .sparkRun ∧ (s.runs 1).failed = true ∧
      (s.runs 2).task = .init ∧ .fetchCheckpointTo ∈ (s.runs 2).todo := by
  have hrun : ((exec ordersSystem.step oneOrder failedOrder).bind fun s =>
      if reportedIn s.log = [.int 7] ∧ s.source.rows = [⟨0, .int 7⟩] ∧
        (s.runs 1).task = .sparkRun ∧ (s.runs 1).failed = true ∧
        (s.runs 2).task = .init ∧ .fetchCheckpointTo ∈ (s.runs 2).todo then some () else none) =
      some () := by decide +kernel
  obtain ⟨s, hs, hfacts⟩ := Option.bind_eq_some_iff.mp hrun
  split at hfacts
  · exact ⟨s, hs, by assumption⟩
  · simp at hfacts

/-- Seven can be written. -/
theorem storable_seven : (CheckpointValue.int 7).Storable :=
  ⟨some "7".toList, by decide +kernel, by rintro t ⟨⟩; decide +kernel⟩

/-- All runs are serviceable after the failure. -/
theorem serviceable_failedOrder {s : State ℕ (Table .integer) (List Row)}
    (h : exec ordersSystem.step oneOrder failedOrder = some s)
    (hreported : reportedIn s.log = [.int 7]) (hrows : s.source.rows = [⟨0, .int 7⟩]) (i : ℕ) :
    ordersSystem.Serviceable s i :=
  sqlIngestion_serviceable (.inl rfl) incremental_ordersById (by decide +kernel) (by decide) rfl h
    (by simpa [hreported] using storable_seven)
    (by simpa [hrows, ColumnValue.checkpoint] using storable_seven) i

/-! ### Completed runs -/

/-- **Every run over a table or a path can be completed.** Take any reachable state of any number of
runs of DAGs of the DAG factory, whatever has happened before, and a run whose source is a table or
a path, which the sink factory accepts, and can be read between the values that can become its
checkpoints, where these values can be written. Retried if it has failed and
then left alone, it goes through its remaining steps and tasks without a failure, and moves
neither a source nor another run. In the end it has landed a batch, published its metric and
saved its `checkpoint_to`. -/
theorem run_completes [DecidableEq ι] {dagId : ι → Text} {source : ι → Source σ β}
    {info : ι → RunInfo}
    {moves : List CheckpointValue → σ → σ → Bool} {initial : σ} {store : Text → Option Text}
    {es : List (Event ι σ)} {s : State ι σ β} {i : ι}
    (h : exec (DagFactory.dags dagId source info moves).step
      (State.start (DagFactory.dags dagId source info moves) initial store) es = some s)
    (htable : (source i).config.isTableOrPath = true)
    (hserviceable : (DagFactory.dags dagId source info moves).Serviceable s i)
    (outside : Outside) :
    (∀ step state row run,
      Step.checkedEffect step ((DagFactory.dags dagId source info moves).dag i) (info i) outside
          state row run =
        Step.effect ((DagFactory.dags dagId source info moves).dag i) (info i) outside state row run
          step) ∧
    ∃ t, exec (DagFactory.dags dagId source info moves).step s
        ((source i).completion i outside (s.runs i)) = some t ∧
      (t.runs i).task = .done ∧ (∀ j, j ≠ i → t.runs j = s.runs j) ∧ t.source = s.source ∧
      (∃ b, Landed t.log i b) ∧
      (∃ payload : Payload, (i, .published payload) ∈ t.log ∧ payload.IsSuccess) ∧
      ∀ u text, lastTo t.log i = some u →
        checkpointText (serialiseCheckpoint u) = .ok (some text) → (i, .saved text) ∈ t.log := by
  refine ⟨fun _ state row run => Step.checkedEffect_eq (.inr htable) (info i) state row run, ?_⟩
  obtain ⟨t, hexec, halone, hdone⟩ := System.exists_completion h hserviceable outside
  have hreach := exec_append_eq_some.mpr ⟨s, h, hexec⟩
  have hspark := ((System.simulates_of_exec hreach).tracks i).spark_finished (.inr hdone)
  have hdelivered := System.delivers_of_exec (fun i => DagFactory.saves_metricPush (dagId i)) hreach
    i (.inl hdone)
  obtain ⟨payload, hpublished, _, _, _, _, rfl⟩ := hdelivered.published
  exact ⟨t, hexec, hdone, halone.runs_eq, halone.source_eq,
    (System.wellOrdered_of_exec hreach).spark_landed i hspark,
    ⟨_, hpublished, DagFactory.isSuccess_payload⟩, hdelivered.saved⟩

/-- The failed run is retried and completed. -/
theorem run_completes_failedOrder :
    ∃ s t, exec ordersSystem.step oneOrder failedOrder = some s ∧
      exec ordersSystem.step s (ordersSource.completion 1 .up (s.runs 1)) = some t ∧
      (t.runs 1).task = .done := by
  obtain ⟨s, hs, hreported, hrows, -⟩ := exec_failedOrder
  obtain ⟨-, t, hexec, hdone, -⟩ :=
    run_completes hs rfl (serviceable_failedOrder hs hreported hrows 1) .up
  exact ⟨s, t, hs, hexec, hdone⟩

section Sql

variable {kind : ColumnKind} {cfg : TableSourceConfig}
  {custom : Text → List Row → Except PyExc (List Row)} [DecidableEq ι] {readType : ReadAdapterType}
  {countRecords : Bool} {dagId : Text} {info : ι → RunInfo} {table : Table kind}
  {store : Text → Option Text} {es : List (Event ι (Table kind))}
  {s : State ι (Table kind) (List Row)} {i : ι}

/-- **One good run lands the whole table.** Runs of one DAG over a SQL source overlap, fail and
are retried in any way. When a run that has yet to compute its `checkpoint_to` is then completed
while the source is up, the stored checkpoint is the maximum of the table and every present row
has been written to the sink. -/
theorem sqlIngestion_catchesUp (hread : readType = .sql ∨ readType = .mysql)
    (hcfg : cfg.Incremental) (hschema : cfg.schema ≠ []) (hkind : kind ≠ .aware)
    (hstore : store dagId = none)
    (h : exec (DagFactory.oneDag dagId (sqlSource readType cfg countRecords custom) info
        Table.inserts).step
      (State.start (DagFactory.oneDag dagId (sqlSource readType cfg countRecords custom) info
        Table.inserts) table store) es = some s)
    (hreported : ∀ v ∈ reportedIn s.log, v.Storable)
    (hrows : ∀ row ∈ s.source.rows, row.value.checkpoint.Storable)
    (hpending : (s.runs i).Pending) {outside : Outside} (hup : outside.sourceUp = true) :
    ∃ t, exec (DagFactory.oneDag dagId (sqlSource readType cfg countRecords custom) info
        Table.inserts).step s
        ((sqlSource readType cfg countRecords custom).completion i outside (s.runs i)) = some t ∧
      t.source = s.source ∧
      (∀ m, s.source.maximum = some m →
        ∃ text, t.store dagId = some text ∧ parseText text = m.checkpoint) ∧
      ∀ row ∈ s.source.rows, ∃ j b, Landed t.log j b ∧ row ∈ b := by
  have hserviceable := sqlIngestion_serviceable hread hcfg hschema hkind hstore h hreported hrows i
  obtain ⟨t, hexec, hsource, -, hsaved⟩ :=
    System.exists_catchUp (fun _ => DagFactory.saves_metricPush dagId) h hpending hserviceable hup
  have hmaximum : ∀ m, s.source.maximum = some m →
      ∃ text, t.store dagId = some text ∧ parseText text = m.checkpoint := by
    intro m hm
    have hcheckpoint : System.maximum (DagFactory.oneDag dagId
        (sqlSource readType cfg countRecords custom) info Table.inserts) s i =
        some m.checkpoint := by
      refine (fetchCheckpointTo_sqlNative hcfg hread s.source).trans ?_
      rw [hm, Option.map_some]
    obtain ⟨text, htext⟩ := m.exists_text (hserviceable.storable _ (.maximum hcheckpoint))
    exact ⟨text, hsaved _ text hcheckpoint htext, parseText_of_text m.checkpoint_stable htext⟩
  refine ⟨t, hexec, hsource, hmaximum, fun row hrow => ?_⟩
  have hreach := exec_append_eq_some.mpr ⟨s, h, hexec⟩
  have hinv := sqlIngestion_noneSkipped hread hcfg hkind hstore hreach
  -- a table with a row has a maximum, and the row lies below it
  cases hm : s.source.maximum with
  | none =>
    have hnil : s.source.rows = [] := List.argmax_eq_none.mp (Option.map_eq_none_iff.mp hm)
    rw [hnil] at hrow
    simp at hrow
  | some m =>
    obtain ⟨text, htext, hparse⟩ := hmaximum m hm
    rw [(System.simulates_of_exec hreach).store_eq] at htext
    obtain ⟨w, -, heq, -, hcovered⟩ := hinv.stored_watermark text htext
    obtain rfl := ColumnValue.checkpoint_injective (heq.trans hparse)
    exact hcovered row (hsource ▸ hrow) ((Table.maximum_spec hm).2 row hrow)

end Sql

/-- The second run lands the order that the first one has not landed. -/
theorem sqlIngestion_catchesUp_failedOrder :
    ∃ s t, exec ordersSystem.step oneOrder failedOrder = some s ∧
      exec ordersSystem.step s (ordersSource.completion 2 .up (s.runs 2)) = some t ∧
      ∃ j b, Landed t.log j b ∧ ⟨0, .int 7⟩ ∈ b := by
  obtain ⟨s, hs, hreported, hrows, -, -, htask, hmem⟩ := exec_failedOrder
  have hup : Outside.up.sourceUp = true := rfl
  obtain ⟨t, hexec, -, -, hlanded⟩ :=
    sqlIngestion_catchesUp (.inl rfl) incremental_ordersById (by decide +kernel) (by decide) rfl hs
      (by simpa [hreported] using storable_seven)
      (by simpa [hrows, ColumnValue.checkpoint] using storable_seven) ⟨htask, .inr hmem⟩ hup
  exact ⟨s, t, hs, hexec, hlanded ⟨0, .int 7⟩ (by simp [hrows])⟩

end BatchIngestion
