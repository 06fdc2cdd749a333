import BatchIngestion.History
import BatchIngestion.Python.IntLimits
import BatchIngestion.SqlAdapter

/-!
# Which steps raise by themselves

What a run needs for its next step, the steps before it have left behind: the local
variables are bound, the run context is in XCom, and it decodes. Of all the steps of
the three tasks, a step that nothing outside disturbs therefore raises only when the
source cannot be read, or when the text of the computed `checkpoint_to` cannot be
written.
-/

namespace BatchIngestion

open Python Library

variable {ι σ β : Type}

/-! ### What a step gives -/

/-- The steps that have no effect of their own. -/
def Step.quiet : Step → Bool
  | .fetchCheckpointFrom | .fetchCheckpointTo | .pushContext | .pullContext | .countRecords
  | .scan | .write | .copyFrom | .pullCheckpoints | .publish | .saveCheckpoint => false
  | _ => true

/-- All effects of a step. -/
inductive Step.Gives (dag : Dag σ β) (info : RunInfo) (outside : Outside) (source : σ)
    (row : Option Text) (run : Run β) : Step → Effect σ β → Prop
  /-- The row is read. -/
  | fetchedFrom {v} (hrow : InitOperator.parseRow (row.map .text) = .ok v) :
      Gives dag info outside source row run .fetchCheckpointFrom
        { run := { run with checkpointFrom := some v }, emitted := some (.fetchedFrom v) }
  /-- The maximum is computed, or swallowed. -/
  | fetchedTo {v} (hmax : InitOperator.fetchCheckpointTo dag.source.readType dag.source.config
        (if outside.sourceUp then dag.source.native source else Native.down) = v) :
      Gives dag info outside source row run .fetchCheckpointTo
        { run := { run with checkpointTo := some v }, emitted := some (.fetchedTo v) }
  /-- The run context is pushed. -/
  | pushed {f t} (hfrom : run.checkpointFrom = some f) (hto : run.checkpointTo = some t) :
      Gives dag info outside source row run .pushContext
        { run := { run with xcom := some (Xcom.ofCheckpoints f t dag.source.readType
            info.ingestionDate) } }
  /-- The run context is decoded. -/
  | decoded {x f t} (hx : run.xcom = some x)
      (hfrom : deserialiseCheckpoint x.checkpointFrom = .ok f)
      (hto : deserialiseCheckpoint x.checkpointTo = .ok t) :
      Gives dag info outside source row run .pullContext
        { run := { run with window := some (f, t) } }
  /-- The DataFrame is counted. -/
  | counted {b} (hb : evaluate dag source run = .ok b) :
      Gives dag info outside source row run .countRecords
        { run := { run with batch := some b, recordCount := some (dag.source.size b) }
          emitted := some (.read source b) }
  /-- The DataFrame is evaluated. -/
  | scanned {b} (hb : evaluate dag source run = .ok b) :
      Gives dag info outside source row run .scan
        { run := { run with batch := some b }, emitted := some (.read source b) }
  /-- The batch is written. -/
  | written {b} (hb : run.batch = some b) :
      Gives dag info outside source row run .write { run, emitted := some (.landed b) }
  /-- The files are copied. -/
  | copied : Gives dag info outside source row run .copyFrom
      { run, emitted := some (.landed (dag.source.copied source)) }
  /-- The texts of the checkpoints are pulled. -/
  | pulled {p} (hp : dag.metricPush.pull run.xcom run.recordCount = .ok p) :
      Gives dag info outside source row run .pullCheckpoints
        { run := { run with pulled := some p } }
  /-- The metric is published. -/
  | published {p} (hp : run.pulled = some p) :
      Gives dag info outside source row run .publish
        { run, emitted := some (.published
            (dag.metricPush.payload dag.dagId outside.now info p)) }
  /-- The checkpoint is saved, if there is one. -/
  | saved {p text} (hp : run.pulled = some p)
      (htext : dag.metricPush.checkpointToSave p = .ok text) :
      Gives dag info outside source row run .saveCheckpoint
        { run, emitted := text.map .saved, upsert := text }
  /-- Nothing happens. -/
  | nothing {step} (hquiet : step.quiet = true) : Gives dag info outside source row run step { run }

section Gives

variable {dag : Dag σ β} {info : RunInfo} {outside : Outside} {source : σ} {row : Option Text}
  {run : Run β} {step : Step} {effect : Effect σ β}

/-- **A step has one of the effects.** -/
theorem Step.gives_of_ok (h : step.effect dag info outside source row run = .ok effect) :
    step.Gives dag info outside source row run effect := by
  cases step with
  | fetchCheckpointFrom =>
    obtain ⟨v, hrow, heffect⟩ := bind_eq_ok_iff.mp h
    obtain rfl := Except.ok.inj heffect
    exact .fetchedFrom hrow
  | fetchCheckpointTo =>
    obtain rfl := Except.ok.inj h
    exact .fetchedTo rfl
  | pushContext =>
    simp only [Step.effect] at h
    split at h
    · rename_i f t hf ht
      obtain rfl := Except.ok.inj h
      exact .pushed hf ht
    · simp at h
  | pullContext =>
    simp only [Step.effect] at h
    split at h
    · rename_i x hx
      obtain ⟨f, hf, h⟩ := bind_eq_ok_iff.mp h
      obtain ⟨t, ht, h⟩ := bind_eq_ok_iff.mp h
      obtain rfl := Except.ok.inj h
      exact .decoded hx hf ht
    · simp at h
  | countRecords =>
    obtain ⟨b, hb, h⟩ := bind_eq_ok_iff.mp h
    obtain rfl := Except.ok.inj h
    exact .counted hb
  | scan =>
    obtain ⟨b, hb, h⟩ := bind_eq_ok_iff.mp h
    obtain rfl := Except.ok.inj h
    exact .scanned hb
  | write =>
    simp only [Step.effect] at h
    split at h
    · rename_i b hb
      obtain rfl := Except.ok.inj h
      exact .written hb
    · simp at h
  | copyFrom =>
    obtain rfl := Except.ok.inj h
    exact .copied
  | pullCheckpoints =>
    obtain ⟨p, hp, h⟩ := bind_eq_ok_iff.mp h
    obtain rfl := Except.ok.inj h
    exact .pulled hp
  | publish =>
    simp only [Step.effect] at h
    split at h
    · rename_i p hp
      obtain rfl := Except.ok.inj h
      exact .published hp
    · simp at h
  | saveCheckpoint =>
    simp only [Step.effect] at h
    split at h
    · rename_i p hp
      obtain ⟨text, htext, h⟩ := bind_eq_ok_iff.mp h
      obtain rfl := Except.ok.inj h
      exact .saved hp htext
    · simp at h
  | loadConfig | buildSourceConfig | buildSinkConfig | sourceSecret | sinkSecret | metricSecret
  | buildSparkSession | createSource | createSink | validateSource | validateSink
  | buildWritePath | applyFilters | read | buildMetricAdapter | validateMetric =>
    obtain rfl := Except.ok.inj h
    exact .nothing rfl

/-! ### Bound variables -/

/-- What a step leaves behind in the local variables of its task. -/
def Run.Binds (run : Run β) : Step → Prop
  | .fetchCheckpointFrom => run.checkpointFrom ≠ none
  | .fetchCheckpointTo => run.checkpointTo ≠ none
  | .pullContext => run.window ≠ none
  | .countRecords | .scan => run.batch ≠ none
  | .pullCheckpoints => run.pulled ≠ none
  | _ => True

/-- The steps that the current attempt has behind it have bound their variables. -/
def Run.Prepared (source : Source σ β) (run : Run β) : Prop :=
  ∀ step ∈ source.steps run.task, step ∈ run.todo ∨ run.Binds step

/-- A step does not leave its task. -/
theorem Step.Gives.task_eq (h : step.Gives dag info outside source row run effect) :
    effect.run.task = run.task := by
  cases h <;> rfl

/-- A step binds its variable. -/
theorem Step.Gives.binds (h : step.Gives dag info outside source row run effect) :
    effect.run.Binds step := by
  cases h with
  | nothing hquiet => cases step <;> trivial
  | _ => simp [Run.Binds]

/-- A step unbinds no variable. -/
theorem Step.Gives.keeps (h : step.Gives dag info outside source row run effect) {step' : Step}
    (hbound : run.Binds step') : effect.run.Binds step' := by
  cases h <;> first | exact hbound | (cases step' <;> first | exact hbound | simp [Run.Binds])

/-- A new attempt is prepared. -/
theorem Run.prepared_of_todo_eq {source : Source σ β} {run : Run β}
    (h : run.todo = source.steps run.task) : run.Prepared source :=
  fun _ hmem => .inl (h ▸ hmem)

/-- **A run stays prepared when it performs a step.** -/
theorem Run.Prepared.perform (h : run.Prepared dag.source) {rest : List Step}
    (htodo : run.todo = step :: rest) (hgives : step.Gives dag info outside source row run effect) :
    Run.Prepared dag.source { effect.run with todo := rest } := by
  intro step' hmem
  rw [show ({ effect.run with todo := rest } : Run β).task = run.task from hgives.task_eq] at hmem
  rcases h step' hmem with htodo' | hbound
  · rw [htodo] at htodo'
    rcases List.mem_cons.mp htodo' with rfl | hrest
    · exact .inr hgives.binds
    · exact .inl hrest
  · exact .inr (hgives.keeps hbound)

end Gives

/-- A retry keeps the task. -/
theorem Run.restart_task (run : Run β) (dag : Dag σ β) : (run.restart dag).task = run.task := by
  unfold restart
  cases htask : run.task with
  | init | sparkRun | metricPush => rfl
  | done => exact htask

section System

variable [DecidableEq ι] {sys : System ι σ β} {s t : State ι σ β}

/-- All runs are prepared. -/
def State.Prepared (sys : System ι σ β) (s : State ι σ β) : Prop :=
  ∀ i, (s.runs i).Prepared (sys.dag i).source

/-- The runs stay prepared when one of them changes and is prepared afterwards. -/
theorem State.Prepared.update (h : s.Prepared sys) {i : ι} {run : Run β}
    (hruns : t.runs = Function.update s.runs i run) (hrun : run.Prepared (sys.dag i).source) :
    t.Prepared sys := by
  intro j
  rw [hruns]
  by_cases hj : j = i
  · subst hj
    rw [Function.update_self]
    exact hrun
  · rw [Function.update_of_ne hj]
    exact h j

/-- Every event leaves the runs prepared. -/
theorem State.Prepared.step {e : Event ι σ} (h : s.Prepared sys) (hstep : sys.step s e = some t) :
    t.Prepared sys := by
  cases System.transition_of_step hstep with
  | source => exact h
  | @performed i outside step rest effect hfailed htodo heffect =>
    exact h.update rfl ((h i).perform htodo (Step.gives_of_ok heffect))
  | @failed _ i =>
    have hrun : Run.Prepared (sys.dag i).source { s.runs i with failed := true } := h i
    exact h.update rfl hrun
  | @retried i =>
    refine h.update rfl ?_
    unfold Run.restart
    cases htask : (s.runs i).task with
    | init | sparkRun | metricPush => exact Run.prepared_of_todo_eq rfl
    | done => exact h i
  | advanced => exact h.update rfl (Run.prepared_of_todo_eq rfl)

/-- **Every reachable run is prepared.** -/
theorem System.prepared_of_exec {source : σ} {store : Text → Option Text} {es : List (Event ι σ)}
    (h : exec sys.step (State.start sys source store) es = some s) : s.Prepared sys :=
  exec_invariant (fun hinv hstep => State.Prepared.step hinv hstep)
    (fun _ => Run.prepared_of_todo_eq rfl) h

end System

/-! ### Steps that raise -/

/-- A value whose text can be written to the store. -/
def CheckpointValue.Storable (v : CheckpointValue) : Prop :=
  ∃ text, v.serialise.text = .ok text ∧ ∀ t, text = some t → '\x00' ∉ t

/-- What was read from a text has a text again. -/
theorem exists_text_parseText (s : Text) : ∃ text, (parseText s).serialise.text = .ok text := by
  cases hint : parseInt (strip s) with
  | some n =>
    have hs : parseText s = .int n := by simp only [parseText, hint]
    have htext : (CheckpointValue.int n).serialise.text = .ok (some (intText n)) := by
      simp [CheckpointValue.serialise, TaggedCheckpoint.text, intStr_of_parseInt hint, Except.map]
    exact ⟨_, hs ▸ htext⟩
  | none =>
    cases hiso : fromisoformat (strip s) with
    | some d =>
      have hs : parseText s = .datetime d := by simp only [parseText, hint, hiso]
      exact ⟨_, by rw [hs]; rfl⟩
    | none =>
      have hs : parseText s = .str (strip s) := by simp only [parseText, hint, hiso]
      exact ⟨_, by rw [hs]; rfl⟩

/-- A row of the store always parses. -/
theorem parseRow_text (row : Option Text) :
    InitOperator.parseRow (row.map .text) = .ok (row.map parseText) := by
  cases row <;> rfl

section Order

variable {source : Source σ β}

/-- No step occurs twice in a task. -/
theorem Source.nodup_steps (source : Source σ β) (task : Task) : (source.steps task).Nodup := by
  cases task with
  | sparkRun =>
    unfold Source.steps
    cases source.config.isPath <;> cases source.countRecords <;> decide
  | init | metricPush | done => simp [Source.steps]

/-- The first step of a task is never left to do after another one. -/
theorem Source.head_notMem {task : Task} {first step : Step} {rest tail : List Step}
    (hfirst : source.steps task = first :: tail)
    (hsuffix : step :: rest <:+ source.steps task) (hne : step ≠ first) :
    first ∉ step :: rest := by
  have hnodup := source.nodup_steps task
  rw [hfirst] at hsuffix hnodup
  rcases List.suffix_cons_iff.mp hsuffix with heq | hsuffix
  · exact absurd (List.cons.inj heq).1 hne
  · exact fun hmem => (List.nodup_cons.mp hnodup).1 (hsuffix.subset hmem)

/-- The write is the last step of its task, and follows an evaluation. -/
theorem Source.write_last {rest : List Step} (h : .write :: rest <:+ source.steps .sparkRun) :
    rest = [] ∧ (.countRecords ∈ source.steps .sparkRun ∨ .scan ∈ source.steps .sparkRun) := by
  unfold Source.steps at *
  cases hpath : source.config.isPath <;> cases hcount : source.countRecords <;>
    simp [hpath, hcount, List.suffix_cons_iff] at h ⊢ <;> exact h

end Order

section Raise

variable [DecidableEq ι] {sys : System ι σ β} {log : List (ι × Action σ β)} {i : ι} {run : Run β}
  {rest : List Step} {outside : Outside} {source : σ} {row : Option Text} {e : PyExc}

/-- What the init task fetches was read from a text. -/
theorem System.fromText_of_exec {initial : σ} {store : Text → Option Text}
    {es : List (Event ι σ)} {s : State ι σ β}
    (h : exec sys.step (State.start sys initial store) es = some s) :
    ∀ i v, lastFrom s.log i = some (some v) → ∃ text, v = parseText text := by
  refine sys.ledger_invariant
    (fun _ log => ∀ i v, lastFrom log i = some (some v) → ∃ text, v = parseText text)
    (by simp [lastFrom]) (fun hinv _ => hinv) ?_ h
  intro src log j a hinv hallowed i v hv
  rcases hallowed.lastFrom_cases hv with ⟨-, -, hrow⟩ | hv
  · rw [parseRow_text] at hrow
    obtain ⟨text, -, heq⟩ := Option.map_eq_some_iff.mp (Except.ok.inj hrow)
    exact ⟨text, heq.symm⟩
  · exact hinv i v hv

/-- The first step of the current task is behind a run that is at a later one. -/
theorem Tracks.first_notMem (h : Tracks sys log i run) {step first : Step} {tail : List Step}
    (htodo : run.todo = step :: rest)
    (hfirst : (sys.dag i).source.steps step.task = first :: tail) (hne : step ≠ first) :
    first ∉ run.todo := by
  have hsuffix := h.suffix
  rw [htodo, h.task_eq htodo] at hsuffix
  rw [htodo]
  exact Source.head_notMem hfirst hsuffix hne

/-- An evaluation raises only what the read of the window raises. -/
theorem Tracks.read_of_evaluate (h : Tracks sys log i run)
    (hprepared : run.Prepared (sys.dag i).source) {step : Step} (htodo : run.todo = step :: rest)
    (hstep : step = .countRecords ∨ step = .scan)
    (hraise : evaluate (sys.dag i) source run = .error e) :
    ∃ f t, lastFrom log i = some f ∧ lastTo log i = some t ∧
      (sys.dag i).source.read source f t = .error e := by
  have htask : step.task = .sparkRun := by rcases hstep with rfl | rfl <;> rfl
  have hne : step ≠ .pullContext := by rcases hstep with rfl | rfl <;> decide
  obtain ⟨tail, hfirst⟩ : ∃ tail, (sys.dag i).source.steps step.task = .pullContext :: tail := by
    rw [htask]
    exact ⟨_, rfl⟩
  have hmem : Step.pullContext ∈ (sys.dag i).source.steps run.task := by
    rw [h.task_eq htodo, hfirst]
    exact List.mem_cons_self
  have hbound := (hprepared _ hmem).resolve_left (h.first_notMem htodo hfirst hne)
  cases hwindow : run.window with
  | none => exact absurd hwindow hbound
  | some window =>
    obtain ⟨f, t⟩ := window
    obtain ⟨-, hfrom, hto⟩ := h.window_logged f t hwindow
    simp only [evaluate, hwindow] at hraise
    exact ⟨f, t, hfrom, hto, hraise⟩

/-- A pull raises only when the `checkpoint_to` has no text. -/
theorem Tracks.not_storable_of_pull (h : Tracks sys log i run) (htask : run.task = .metricPush)
    (hfromText : ∀ v, lastFrom log i = some (some v) → ∃ text, v = parseText text)
    (hraise : (sys.dag i).metricPush.pull run.xcom run.recordCount = .error e) :
    ∃ v, lastTo log i = some (some v) ∧ ¬ v.Storable := by
  cases hx : run.xcom with
  | none => exact absurd hx (h.xcom_kept (by simp [htask]))
  | some x =>
    obtain ⟨f, t, hf, ht, rfl⟩ := h.xcom_logged x hx
    rw [hx] at hraise
    have hfrom : ∃ text, checkpointText (serialiseCheckpoint f) = .ok text := by
      cases f with
      | none => exact ⟨none, rfl⟩
      | some v =>
        obtain ⟨text, rfl⟩ := hfromText v hf
        exact exists_text_parseText text
    obtain ⟨textFrom, hfrom⟩ := hfrom
    cases t with
    | none =>
      have hto : checkpointText (serialiseCheckpoint none) = .ok none := rfl
      simp [MetricPushOperator.pull, Xcom.ofCheckpoints, hfrom, hto] at hraise
    | some v =>
      refine ⟨v, ht, ?_⟩
      rintro ⟨textTo, hto, -⟩
      have hto' : checkpointText (serialiseCheckpoint (some v)) = .ok textTo := hto
      simp [MetricPushOperator.pull, Xcom.ofCheckpoints, hfrom, hto'] at hraise

/-- A save raises only when the text of the `checkpoint_to` cannot be written. -/
theorem Tracks.not_storable_of_save (h : Tracks sys log i run) {p : Pulled}
    (hp : run.pulled = some p)
    (hraise : (sys.dag i).metricPush.checkpointToSave p = .error e) :
    ∃ v, lastTo log i = some (some v) ∧ ¬ v.Storable := by
  obtain ⟨-, f, t, -, ht, -, htext⟩ := h.pulled_logged p hp
  unfold MetricPushOperator.checkpointToSave at hraise
  split at hraise
  · rename_i text connId hto hconn
    split at hraise
    · simp at hraise
    · have hnul : '\x00' ∈ text := by
        by_contra hnul
        simp [MetricPushOperator.textParameter, hnul, Except.map] at hraise
      rw [hto] at htext
      obtain ⟨v, rfl, hv⟩ := exists_of_checkpointText htext
      refine ⟨v, ht, ?_⟩
      rintro ⟨text', hv', hfree⟩
      obtain rfl := Except.ok.inj (hv.symm.trans hv')
      exact hfree text rfl hnul
  · simp at hraise

/-- A step that raises evaluates a DataFrame that cannot be read, or pulls or saves a
`checkpoint_to` whose text cannot be written. -/
theorem Tracks.raises_only (h : Tracks sys log i run) (hprepared : run.Prepared (sys.dag i).source)
    (hfromText : ∀ v, lastFrom log i = some (some v) → ∃ text, v = parseText text) {step : Step}
    (htodo : run.todo = step :: rest)
    (hraise : step.effect (sys.dag i) (sys.info i) outside source row run = .error e) :
    (∃ f t, (step = .countRecords ∨ step = .scan) ∧ lastFrom log i = some f ∧
      lastTo log i = some t ∧ (sys.dag i).source.read source f t = .error e) ∨
    ∃ v, (step = .pullCheckpoints ∨ step = .saveCheckpoint) ∧ lastTo log i = some (some v) ∧
      ¬ v.Storable := by
  have htask : run.task = step.task := h.task_eq htodo
  -- a step that is not left to do has bound its variable
  have hbound (step' : Step) (hmem : step' ∈ (sys.dag i).source.steps step.task)
      (hdone : step' ∉ step :: rest) : run.Binds step' :=
    (hprepared step' (htask ▸ hmem)).resolve_left (htodo ▸ hdone)
  cases step with
  | fetchCheckpointFrom =>
    simp only [Step.effect, parseRow_text] at hraise
    cases hraise
  | fetchCheckpointTo => cases hraise
  | pushContext =>
    obtain rfl := h.rest_eq_nil htodo
    have hfrom := hbound .fetchCheckpointFrom (by simp [Step.task, Source.steps]) (by simp)
    have hto := hbound .fetchCheckpointTo (by simp [Step.task, Source.steps]) (by simp)
    obtain ⟨f, hf⟩ := Option.ne_none_iff_exists'.mp hfrom
    obtain ⟨t, ht⟩ := Option.ne_none_iff_exists'.mp hto
    simp [Step.effect, hf, ht] at hraise
  | pullContext =>
    cases hx : run.xcom with
    | none => exact absurd hx (h.xcom_kept (by simp [htask, Step.task]))
    | some x =>
      obtain ⟨f, t, -, -, rfl⟩ := h.xcom_logged x hx
      simp [Step.effect, hx, Xcom.ofCheckpoints] at hraise
  | countRecords =>
    obtain ⟨f, t, hfrom, hto, hread⟩ :=
      h.read_of_evaluate hprepared htodo (.inl rfl) (eq_error_of_bind_ok hraise)
    exact .inl ⟨f, t, .inl rfl, hfrom, hto, hread⟩
  | scan =>
    obtain ⟨f, t, hfrom, hto, hread⟩ :=
      h.read_of_evaluate hprepared htodo (.inr rfl) (eq_error_of_bind_ok hraise)
    exact .inl ⟨f, t, .inr rfl, hfrom, hto, hread⟩
  | write =>
    have hsuffix := h.suffix
    rw [htodo, htask] at hsuffix
    obtain ⟨rfl, hmem⟩ := Source.write_last hsuffix
    have hbatch : run.batch ≠ none := by
      rcases hmem with hmem | hmem
      · exact hbound _ hmem (by simp)
      · exact hbound _ hmem (by simp)
    obtain ⟨b, hb⟩ := Option.ne_none_iff_exists'.mp hbatch
    simp [Step.effect, hb] at hraise
  | copyFrom => cases hraise
  | pullCheckpoints =>
    obtain ⟨v, hto, hstorable⟩ :=
      h.not_storable_of_pull htask hfromText (eq_error_of_bind_ok hraise)
    exact .inr ⟨v, .inl rfl, hto, hstorable⟩
  | publish =>
    have hpulled := hbound .pullCheckpoints (by simp [Step.task, Source.steps])
      (htodo ▸ h.first_notMem htodo rfl (by decide))
    obtain ⟨p, hp⟩ := Option.ne_none_iff_exists'.mp hpulled
    simp [Step.effect, hp] at hraise
  | saveCheckpoint =>
    have hpulled := hbound .pullCheckpoints (by simp [Step.task, Source.steps])
      (htodo ▸ h.first_notMem htodo rfl (by decide))
    obtain ⟨p, hp⟩ := Option.ne_none_iff_exists'.mp hpulled
    simp only [Step.effect, hp] at hraise
    obtain ⟨v, hto, hstorable⟩ := h.not_storable_of_save hp (eq_error_of_bind_ok hraise)
    exact .inr ⟨v, .inr rfl, hto, hstorable⟩
  | loadConfig | buildSourceConfig | buildSinkConfig | sourceSecret | sinkSecret | metricSecret
  | buildSparkSession | createSource | createSink | validateSource | validateSink
  | buildWritePath | applyFilters | read | buildMetricAdapter | validateMetric => cases hraise

/-- The effect of a step, with the check of the sink factory that `Step.effect` leaves aside: it
rejects every source that is neither a table nor a path. -/
def Step.checkedEffect (step : Step) (dag : Dag σ β) (info : RunInfo) (outside : Outside)
    (source : σ) (row : Option Text) (run : Run β) : Except PyExc (Effect σ β) :=
  if step = .buildSinkConfig ∧ dag.source.config.isTableOrPath = false then
    .error (SinkConfigFactory.sourceError dag.source.config)
  else step.effect dag info outside source row run

/-- The check changes no other step, and passes a table or a path. -/
theorem Step.checkedEffect_eq {dag : Dag σ β} {step : Step}
    (h : step ≠ .buildSinkConfig ∨ dag.source.config.isTableOrPath = true)
    (info : RunInfo) (source : σ) (row : Option Text) (run : Run β) :
    step.checkedEffect dag info outside source row run =
      step.effect dag info outside source row run := by
  refine if_neg ?_
  rintro ⟨hstep, hconfig⟩
  rcases h with hother | htable
  · exact hother hstep
  · simp [htable] at hconfig

/-- **What makes a step raise by itself.** In every reachable state, a step that nothing
outside disturbs raises only when it evaluates the DataFrame and the source cannot be read in
the window of the run, when it pulls or saves a `checkpoint_to` whose text cannot be written,
or when it builds the sink configuration of a source that is neither a table nor a path. No step
finds a variable unbound, a run context missing or one that does not decode. -/
theorem step_raises_only {initial : σ} {store : Text → Option Text} {es : List (Event ι σ)}
    {s : State ι σ β} {step : Step}
    (h : exec sys.step (State.start sys initial store) es = some s)
    (htodo : (s.runs i).todo = step :: rest)
    (hraise : step.checkedEffect (sys.dag i) (sys.info i) outside s.source
      (s.store (sys.dag i).dagId) (s.runs i) = .error e) :
    (∃ f t, (step = .countRecords ∨ step = .scan) ∧ lastFrom s.log i = some f ∧
      lastTo s.log i = some t ∧ (sys.dag i).source.read s.source f t = .error e) ∨
    (∃ v, (step = .pullCheckpoints ∨ step = .saveCheckpoint) ∧ lastTo s.log i = some (some v) ∧
      ¬ v.Storable) ∨
    step = .buildSinkConfig ∧ (sys.dag i).source.config.isTableOrPath = false := by
  by_cases hsink : step = .buildSinkConfig ∧ (sys.dag i).source.config.isTableOrPath = false
  · exact .inr (.inr hsink)
  · rw [Step.checkedEffect, if_neg hsink] at hraise
    exact (((System.simulates_of_exec h).tracks i).raises_only (System.prepared_of_exec h i)
      (System.fromText_of_exec h i) htodo hraise).imp_right .inl

/-- The DAG `orders` with a custom query that the database rejects. -/
def rejectedQuery : System ℕ (Table .integer) (List Row) :=
  DagFactory.oneDag "orders".toList
    (sqlSource .sql { ordersById with query := some "SELECT".toList } false
      fun _ _ => .error (.external "syntax error"))
    (fun _ => ⟨[], [], []⟩) Table.inserts

/-- The rejected query raises when the DataFrame is evaluated. -/
theorem step_raises_only_rejectedQuery :
    ∃ s f t e, exec rejectedQuery.step
        (State.start rejectedQuery (Table.ofInts [7]) fun _ => none)
        (List.replicate 9 (.perform 1 .up) ++ .next 1 :: List.replicate 9 (.perform 1 .up)) =
          some s ∧
      lastFrom s.log 1 = some f ∧ lastTo s.log 1 = some t ∧
      (rejectedQuery.dag 1).source.read s.source f t = .error e := by
  have hrun : ((exec rejectedQuery.step
      (State.start rejectedQuery (Table.ofInts [7]) fun _ => none)
      (List.replicate 9 (.perform 1 .up) ++ .next 1 :: List.replicate 9 (.perform 1 .up))).bind
      fun s => if (s.runs 1).todo = [.scan, .write] ∧
          (s.runs 1).window = some (none, some (.int 7)) then some () else none) = some () := by
    decide +kernel
  obtain ⟨s, hs, htodo⟩ := Option.bind_eq_some_iff.mp hrun
  split at htodo
  · rename_i h
    obtain ⟨htodo, hwindow⟩ := h
    have hraise : ∃ e, Step.checkedEffect .scan (rejectedQuery.dag 1) (rejectedQuery.info 1) .up
        s.source (s.store (rejectedQuery.dag 1).dagId) (s.runs 1) = .error e := by
      rw [Step.checkedEffect_eq (.inr rfl)]
      simp only [Step.effect, evaluate, hwindow]
      exact ⟨_, rfl⟩
    obtain ⟨e, hraise⟩ := hraise
    rcases step_raises_only hs htodo hraise with
      ⟨f, t, -, hfrom, hto, hread⟩ | ⟨v, hstep, -⟩ | ⟨hstep, -⟩
    · exact ⟨s, f, t, e, hs, hfrom, hto, hread⟩
    · simp at hstep
    · cases hstep
  · simp at htodo

end Raise

end BatchIngestion
