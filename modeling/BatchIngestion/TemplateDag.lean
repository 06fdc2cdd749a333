import BatchIngestion.Sequential
import BatchIngestion.SqlAdapter

/-!
# The template DAG and the DAG factory

`file_landing_pipeline` and `_make_dag` wire the same three tasks. They give different
parameters to `MetricPushOperator`: the template passes no connection for the checkpoints.
Fed with the same events the two pipelines go through the same states, except for the
metrics and the table of checkpoints.
-/

namespace BatchIngestion

open Python Library

variable {ι σ β : Type}

namespace FileLandingDag

/-- The `dag_id` of the template. -/
def dagId : Text := "file_landing_pipeline"

/-- The `MetricPushOperator` of the template. -/
def metricPush : MetricPushOperator where
  status := "success"
  extraPayload := [("stage", .str "complete")]
  checkpointConnId := none
  sparkTaskId := none

/-- The template DAG with a source. -/
def dag (source : Source σ β) : Dag σ β where
  dagId := dagId
  source := source
  metricPush := metricPush

/-- The runs of the template DAG. -/
def oneDag (source : Source σ β) (info : ι → RunInfo)
    (moves : List CheckpointValue → σ → σ → Bool) : System ι σ β where
  dag _ := dag source
  info := info
  moves := moves

end FileLandingDag

/-! ### What the wirings have in common -/

/-- What was pulled, without the record count. -/
def Pulled.forgetCount (p : Pulled) : Pulled := { p with recordCount := none }

/-- Two runs agree, except for the record count that their metric tasks pulled. -/
structure Run.Like (r r' : Run β) : Prop where
  /-- The runs differ in what they pulled at most. -/
  eq : r' = { r with pulled := r'.pulled }
  /-- The pulled checkpoints agree. -/
  pulled : r.pulled.map Pulled.forgetCount = r'.pulled.map Pulled.forgetCount

/-- An action that is no metric and no save. -/
def Action.isShared : Action σ β → Bool
  | .published _ | .saved _ => false
  | _ => true

/-- The entries of a log that both wirings make. -/
def sharedLog (log : List (ι × Action σ β)) : List (ι × Action σ β) :=
  log.filter fun entry => entry.2.isShared

/-- The values of `checkpoint_from` in a log, with their runs, newest first. -/
def fetchedFroms (log : List (ι × Action σ β)) : List (ι × Option CheckpointValue) :=
  log.filterMap fun entry =>
    match entry.2 with
    | .fetchedFrom value => some (entry.1, value)
    | _ => none

/-- Two effects of a step on a row agree. -/
def Effect.Like (row : Option Text) (a b : Effect σ β) : Prop :=
  a.run.Like b.run ∧ a.emitted.filter Action.isShared = b.emitted.filter Action.isShared ∧
    a.upsert.or row = b.upsert.or row

/-- The shared entries decide what was fetched. -/
theorem fetchedFroms_sharedLog (log : List (ι × Action σ β)) :
    fetchedFroms (sharedLog log) = fetchedFroms log := by
  rw [fetchedFroms, sharedLog, List.filterMap_filter]
  congr 1
  funext entry
  obtain ⟨i, a⟩ := entry
  cases a <;> rfl

/-- The shared entries decide what was reported. -/
theorem reportedIn_sharedLog (log : List (ι × Action σ β)) :
    reportedIn (sharedLog log) = reportedIn log := by
  rw [reportedIn, sharedLog, List.filterMap_filter]
  congr 1
  funext entry
  obtain ⟨i, a⟩ := entry
  cases a <;> rfl

/-- Two outcomes of a step agree. -/
def OutcomesAgree (row : Option Text) : Except PyExc (Effect σ β) → Except PyExc (Effect σ β) → Prop
  | .ok a, .ok b => a.Like row b
  | .error e, .error e' => e = e'
  | _, _ => False

/-- Pulling gives the same checkpoints for all parameters of the metric task. -/
theorem MetricPushOperator.pull_forgetCount (op op' : MetricPushOperator) (xcom : Option Xcom)
    (recordCount : Option ℕ) :
    (op.pull xcom recordCount).map Pulled.forgetCount =
      (op'.pull xcom recordCount).map Pulled.forgetCount := by
  cases xcom with
  | none => rfl
  | some x =>
    cases hfrom : checkpointText x.checkpointFrom <;> cases hto : checkpointText x.checkpointTo <;>
      simp [pull, hfrom, hto, Except.map, Pulled.forgetCount]

/-- Without a connection nothing is saved. -/
theorem MetricPushOperator.checkpointToSave_of_no_connection {op : MetricPushOperator}
    (h : op.checkpointConnId = none) (pulled : Pulled) : op.checkpointToSave pulled = .ok none := by
  rw [checkpointToSave, h]
  cases pulled.checkpointTo <;> rfl

/-- A checkpoint that a save would leave as it is: none, an empty text, or the text of the row. -/
def Keeps (row checkpointTo : Option Text) : Prop :=
  ∀ text, checkpointTo = some text → text ≠ [] → row = some text ∧ '\x00' ∉ text

/-- Such a checkpoint is saved without an error and without a change. -/
theorem MetricPushOperator.checkpointToSave_of_keeps {op : MetricPushOperator} {pulled : Pulled}
    {row : Option Text} (h : Keeps row pulled.checkpointTo) :
    ∃ saved, op.checkpointToSave pulled = .ok saved ∧ saved.or row = row := by
  unfold checkpointToSave
  split
  · rename_i text connId hto hconn
    split
    · exact ⟨none, rfl, rfl⟩
    · rename_i hempty
      obtain ⟨hrow, hnul⟩ := h text hto fun heq => hempty (.inl heq)
      refine ⟨some text, ?_, hrow.symm⟩
      rw [textParameter, if_neg hnul]
      rfl
  · exact ⟨none, rfl, rfl⟩

/-- **Every step agrees**, a save when it keeps the row. -/
theorem Step.effect_like (template factory : Dag σ β) (hsource : template.source = factory.source)
    (htemplate : template.metricPush.checkpointConnId = none) (info : RunInfo) (outside : Outside)
    (source : σ) {row : Option Text} {r r' : Run β} (hlike : r.Like r') {step : Step}
    (hkeeps : step = .saveCheckpoint →
      ∀ pulled, r'.pulled = some pulled → Keeps row pulled.checkpointTo) :
    OutcomesAgree row (step.effect template info outside source row r)
      (step.effect factory info outside source row r') := by
  obtain ⟨hrun, hpulled⟩ := id hlike
  have hevaluate : evaluate template source r = evaluate factory source r' := by
    rw [evaluate, evaluate, hsource, hrun]
  cases step with
  | fetchCheckpointFrom =>
    simp only [Step.effect]
    rw [hrun]
    cases InitOperator.parseRow (row.map .text) with
    | error e => rfl
    | ok value => exact ⟨⟨rfl, hpulled⟩, rfl, rfl⟩
  | fetchCheckpointTo =>
    simp only [Step.effect]
    rw [hrun, hsource]
    exact ⟨⟨rfl, hpulled⟩, rfl, rfl⟩
  | pushContext =>
    simp only [Step.effect]
    rw [hrun, hsource]
    dsimp only
    cases r.checkpointFrom with
    | none => rfl
    | some checkpointFrom =>
      cases r.checkpointTo with
      | none => rfl
      | some checkpointTo => exact ⟨⟨rfl, hpulled⟩, rfl, rfl⟩
  | pullContext =>
    simp only [Step.effect]
    rw [hrun]
    dsimp only
    cases r.xcom with
    | none => rfl
    | some xcom =>
      dsimp only
      cases deserialiseCheckpoint xcom.checkpointFrom with
      | error e => rfl
      | ok checkpointFrom =>
        cases deserialiseCheckpoint xcom.checkpointTo with
        | error e => rfl
        | ok checkpointTo => exact ⟨⟨rfl, hpulled⟩, rfl, rfl⟩
  | countRecords =>
    simp only [Step.effect]
    rw [hevaluate, hsource]
    cases evaluate factory source r' with
    | error e => rfl
    | ok batch => exact ⟨⟨by rw [hrun], hpulled⟩, rfl, rfl⟩
  | scan =>
    simp only [Step.effect]
    rw [hevaluate]
    cases evaluate factory source r' with
    | error e => rfl
    | ok batch => exact ⟨⟨by rw [hrun], hpulled⟩, rfl, rfl⟩
  | write =>
    have hbatch : r'.batch = r.batch := by rw [hrun]
    simp only [Step.effect]
    rw [hbatch]
    cases r.batch with
    | none => rfl
    | some batch => exact ⟨hlike, rfl, rfl⟩
  | copyFrom =>
    simp only [Step.effect]
    rw [hrun, hsource]
    exact ⟨⟨rfl, hpulled⟩, rfl, rfl⟩
  | pullCheckpoints =>
    simp only [Step.effect]
    have hpull := MetricPushOperator.pull_forgetCount template.metricPush factory.metricPush
      r.xcom r.recordCount
    rw [hrun]
    dsimp only
    revert hpull
    cases template.metricPush.pull r.xcom r.recordCount <;>
      cases factory.metricPush.pull r.xcom r.recordCount <;> intro hpull <;>
      simp only [Except.map, reduceCtorEq, Except.error.injEq, Except.ok.injEq] at hpull
    · exact hpull
    · exact ⟨⟨rfl, congrArg some hpull⟩, rfl, rfl⟩
  | publish =>
    simp only [Step.effect]
    revert hpulled
    cases r.pulled <;> cases r'.pulled <;> intro hpulled <;>
      simp only [Option.map_some, Option.map_none, reduceCtorEq] at hpulled
    · rfl
    · exact ⟨hlike, rfl, rfl⟩
  | saveCheckpoint =>
    simp only [Step.effect]
    have hkeeps := hkeeps rfl
    revert hpulled
    cases r.pulled <;> cases hpulled' : r'.pulled <;> intro hpulled <;>
      simp only [Option.map_some, Option.map_none, reduceCtorEq] at hpulled
    · rfl
    · obtain ⟨saved, hsaved, hrow⟩ := factory.metricPush.checkpointToSave_of_keeps
        (hkeeps _ hpulled')
      simp only [template.metricPush.checkpointToSave_of_no_connection htemplate, hsaved]
      exact ⟨hlike, by cases saved <;> rfl, hrow.symm⟩
  | _ => exact ⟨hlike, rfl, rfl⟩

/-- Effects agree after the step is taken off the list. -/
theorem Effect.Like.withTodo {row : Option Text} {a b : Effect σ β} (h : a.Like row b)
    (rest : List Step) :
    Effect.Like row { a with run := { a.run with todo := rest } }
      { b with run := { b.run with todo := rest } } :=
  ⟨⟨by rw [h.1.eq], h.1.pulled⟩, h.2⟩

/-- A retried attempt of runs that agree. -/
theorem Run.Like.restart {r r' : Run β} (h : r.Like r') (template factory : Dag σ β)
    (hsource : template.source = factory.source) :
    (r.restart template).Like (r'.restart factory) := by
  have htask : r'.task = r.task := by rw [h.eq]
  have hxcom : r'.xcom = r.xcom := by rw [h.eq]
  have hcount : r'.recordCount = r.recordCount := by rw [h.eq]
  unfold Run.restart
  rw [htask, hxcom, hcount, hsource]
  cases r.task with
  | done => exact h
  | _ => exact ⟨rfl, rfl⟩

/-- The next task of runs that agree. -/
theorem Run.Like.advance {r r' : Run β} (h : r.Like r') (template factory : Dag σ β)
    (hsource : template.source = factory.source) :
    (r.advance template).Like (r'.advance factory) := by
  rw [h.eq, Run.advance, Run.advance, hsource]
  exact ⟨rfl, rfl⟩

/-! ### Runs of the two DAGs -/

/-- A state of the template pipeline agrees with a state of a pipeline of the DAG factory. -/
structure Agree (dagId : Text) (s t : State ι σ β) : Prop where
  /-- The sources agree. -/
  source : s.source = t.source
  /-- The rows agree, each under its own key. -/
  row : s.store FileLandingDag.dagId = t.store dagId
  /-- The runs agree. -/
  runs : ∀ i, (s.runs i).Like (t.runs i)
  /-- The logs agree. -/
  log : sharedLog s.log = sharedLog t.log

section Follow

variable [DecidableEq ι] {source : Source σ β} {info : ι → RunInfo}
  {moves : List CheckpointValue → σ → σ → Bool} {dagId : Text}

/-- A save in a state of the factory's pipeline leaves the row as it is. -/
def SavesKeepRow (dagId : Text) (t : State ι σ β) (e : Event ι σ) : Prop :=
  ∀ i, t.Performs e i .saveCheckpoint → ∀ pulled, (t.runs i).pulled = some pulled →
    Keeps (t.store dagId) pulled.checkpointTo

omit [DecidableEq ι] in
/-- The row of a DAG after an upsert. -/
theorem State.upsert_row (s : State ι σ β) (key : Text) (text : Option Text) :
    (s.upsert key text).store key = text.or (s.store key) := by
  cases text with
  | none => rfl
  | some text => exact Function.update_self ..

omit [DecidableEq ι] in
/-- The shared entries of an extended log. -/
theorem sharedLog_emit (log : List (ι × Action σ β)) (i : ι) (a : Option (Action σ β)) :
    sharedLog (a.elim log fun a => (i, a) :: log) =
      ((a.filter Action.isShared).map (Prod.mk i)).toList ++ sharedLog log := by
  cases a with
  | none => rfl
  | some a => cases a <;> rfl

/-- Effects that agree keep the agreement of the states. -/
theorem Agree.update {s t : State ι σ β} (h : Agree dagId s t) {i : ι} {a b : Effect σ β}
    (hlike : a.Like (t.store dagId) b) :
    Agree dagId (((s.setRun i a.run).upsert FileLandingDag.dagId a.upsert).emit i a.emitted)
      (((t.setRun i b.run).upsert dagId b.upsert).emit i b.emitted) where
  source := h.source
  row := by
    have hrow := hlike.2.2
    rw [← h.row] at hrow
    simpa only [State.emit, State.upsert_row, State.setRun, h.row] using hrow
  runs j := by
    simp only [State.emit, State.upsert, State.setRun, Function.update_apply]
    split
    · exact hlike.1
    · exact h.runs j
  log := by
    simp only [State.emit, State.upsert, State.setRun, sharedLog_emit, hlike.2.1, h.log]

/-- Failures keep the agreement. -/
theorem Agree.fail {template factory : System ι σ β} {s t : State ι σ β} (h : Agree dagId s t)
    (i : ι) (error : Text) (metricUp : Bool) :
    Agree dagId (template.fail s i error metricUp) (factory.fail t i error metricUp) := by
  have hfailed : ({ s.runs i with failed := true } : Run β).Like
      { t.runs i with failed := true } :=
    ⟨by rw [(h.runs i).eq], (h.runs i).pulled⟩
  have hmetric : ∀ (sys : System ι σ β) (r : Run β),
      (if r.task = .sparkRun ∧ metricUp then
        some (Action.published (σ := σ) (β := β)
          (failurePayload (sys.dag i).dagId (sys.info i).runId error)) else none).filter
        Action.isShared = none := by
    intro sys r
    split <;> rfl
  exact h.update (a := ⟨_, _, none⟩) (b := ⟨_, _, none⟩)
    ⟨hfailed, (hmetric template _).trans (hmetric factory _).symm, rfl⟩

/-- Performing a step keeps the agreement. -/
theorem Agree.performStep {s t : State ι σ β} (h : Agree dagId s t) {i : ι} {outside : Outside}
    {step : Step} {rest : List Step}
    (hkeeps : step = .saveCheckpoint →
      ∀ pulled, (t.runs i).pulled = some pulled → Keeps (t.store dagId) pulled.checkpointTo) :
    Agree dagId
      ((FileLandingDag.oneDag source info moves).performStep s i outside step rest)
      ((DagFactory.oneDag dagId source info moves).performStep t i outside step rest) := by
  have heffect := Step.effect_like (FileLandingDag.dag source) (DagFactory.makeDag dagId source)
    rfl rfl (info i) outside t.source (h.runs i) hkeeps
  have hsource : step.effect (FileLandingDag.dag source) (info i) outside s.source
      (s.store FileLandingDag.dagId) (s.runs i) = step.effect (FileLandingDag.dag source) (info i)
        outside t.source (t.store dagId) (s.runs i) := by
    rw [h.source, h.row]
  cases htemplate : step.effect (FileLandingDag.dag source) (info i) outside t.source
      (t.store dagId) (s.runs i) <;>
    cases hfactory : step.effect (DagFactory.makeDag dagId source) (info i) outside t.source
      (t.store dagId) (t.runs i) <;> rw [htemplate, hfactory] at heffect
  · obtain rfl := heffect
    rw [System.performStep_of_error (hsource.trans htemplate),
      System.performStep_of_error hfactory]
    exact h.fail i _ _
  · exact heffect.elim
  · exact heffect.elim
  · rw [System.performStep_of_ok (hsource.trans htemplate), System.performStep_of_ok hfactory]
    exact h.update (heffect.withTodo rest)

/-- **The template follows every step** of the factory's pipeline that keeps the row. -/
theorem Agree.step {s t t' : State ι σ β} (h : Agree dagId s t) {e : Event ι σ}
    (hkeeps : SavesKeepRow dagId t e)
    (hstep : (DagFactory.oneDag dagId source info moves).step t e = some t') :
    ∃ s', (FileLandingDag.oneDag source info moves).step s e = some s' ∧ Agree dagId s' t' := by
  have hfields : ∀ i, (t.runs i).failed = (s.runs i).failed ∧ (t.runs i).todo = (s.runs i).todo ∧
      (t.runs i).task = (s.runs i).task := by
    intro i
    rw [(h.runs i).eq]
    exact ⟨rfl, rfl, rfl⟩
  cases e with
  | source next =>
    have hreported : reportedIn s.log = reportedIn t.log := by
      rw [← reportedIn_sharedLog, h.log, reportedIn_sharedLog]
    simp only [System.step] at hstep ⊢
    rw [hreported, h.source]
    split at hstep
    · rename_i hmoves
      obtain rfl := Option.some.inj hstep
      exact ⟨_, if_pos hmoves, ⟨rfl, h.row, h.runs, h.log⟩⟩
    · simp at hstep
  | perform i outside =>
    obtain ⟨hfailed, htodo, -⟩ := hfields i
    simp only [System.step] at hstep ⊢
    split at hstep
    · rename_i step rest hf ht
      obtain rfl := Option.some.inj hstep
      rw [← hfailed, ← htodo, hf, ht]
      exact ⟨_, rfl, h.performStep fun hsave =>
        hkeeps i ⟨outside, rest, rfl, hf, hsave ▸ ht⟩⟩
    · simp at hstep
  | raise i error metricUp =>
    obtain ⟨hfailed, htodo, -⟩ := hfields i
    simp only [System.step] at hstep ⊢
    split at hstep
    · rename_i step rest hf ht
      obtain rfl := Option.some.inj hstep
      rw [← hfailed, ← htodo, hf, ht]
      exact ⟨_, rfl, h.fail i error metricUp⟩
    · simp at hstep
  | retry i =>
    obtain ⟨hfailed, -, -⟩ := hfields i
    simp only [System.step] at hstep ⊢
    split at hstep
    · rename_i hf
      obtain rfl := Option.some.inj hstep
      have hlike : ((s.runs i).restart (FileLandingDag.dag source)).Like
          ((t.runs i).restart (DagFactory.makeDag dagId source)) :=
        (h.runs i).restart (FileLandingDag.dag source) (DagFactory.makeDag dagId source) rfl
      exact ⟨_, if_pos (hfailed ▸ hf), h.update (a := ⟨_, none, none⟩) (b := ⟨_, none, none⟩)
        ⟨hlike, rfl, rfl⟩⟩
    · simp at hstep
  | next i =>
    obtain ⟨hfailed, htodo, htask⟩ := hfields i
    simp only [System.step] at hstep ⊢
    split at hstep
    · rename_i hready
      obtain rfl := Option.some.inj hstep
      rw [hfailed, htodo, htask] at hready
      have hlike : ((s.runs i).advance (FileLandingDag.dag source)).Like
          ((t.runs i).advance (DagFactory.makeDag dagId source)) :=
        (h.runs i).advance (FileLandingDag.dag source) (DagFactory.makeDag dagId source) rfl
      rw [htask]
      exact ⟨_, if_pos hready, h.update (a := ⟨_, some (.finished _), none⟩)
        (b := ⟨_, some (.finished _), none⟩) ⟨hlike, rfl, rfl⟩⟩
    · simp at hstep

/-- **When both wirings treat checkpoints alike**: on every history in which no save of the
factory's DAG changes the row, the template DAG takes the same steps, fetches the same values
and ends with the same row. -/
theorem templateDag_agrees {source : Source σ β} {info : ι → RunInfo}
    {moves : List CheckpointValue → σ → σ → Bool} {dagId : Text} {initialSource : σ}
    {store store' : Text → Option Text} {es : List (Event ι σ)} {T : State ι σ β}
    (hrow : store' FileLandingDag.dagId = store dagId)
    (h : exec (DagFactory.oneDag dagId source info moves).step
      (State.start (DagFactory.oneDag dagId source info moves) initialSource store) es = some T)
    (hkeeps : Along (DagFactory.oneDag dagId source info moves).step (SavesKeepRow dagId)
      (State.start (DagFactory.oneDag dagId source info moves) initialSource store) es) :
    ∃ S, exec (FileLandingDag.oneDag source info moves).step
        (State.start (FileLandingDag.oneDag source info moves) initialSource store') es = some S ∧
      fetchedFroms S.log = fetchedFroms T.log ∧
      S.store FileLandingDag.dagId = T.store dagId := by
  have hstart : Agree dagId
      (State.start (FileLandingDag.oneDag source info moves) initialSource store')
      (State.start (DagFactory.oneDag dagId source info moves) initialSource store) :=
    ⟨rfl, hrow, fun _ => ⟨rfl, rfl⟩, rfl⟩
  obtain ⟨S, hS, hagree⟩ := exec_simulation_along (fun hagree hkeeps hstep =>
    hagree.step hkeeps hstep) hstart hkeeps h
  refine ⟨S, hS, ?_, hagree.row⟩
  rw [← fetchedFroms_sharedLog, hagree.log, fetchedFroms_sharedLog]

/-- A check that a save leaves the row as it is. -/
def savesKeepRow (dagId : Text) (t : State ι σ β) (e : Event ι σ) : Bool :=
  match e with
  | .perform i _ => ((t.runs i).pulled.bind Pulled.checkpointTo).all fun text =>
      decide ((t.runs i).todo.head? = some .saveCheckpoint → text ≠ [] →
        t.store dagId = some text ∧ '\x00' ∉ text)
  | _ => true

omit [DecidableEq ι] in
/-- The check is sound. -/
theorem savesKeepRow_of_check {t : State ι σ β} {e : Event ι σ}
    (h : savesKeepRow dagId t e = true) : SavesKeepRow dagId t e := by
  rintro i ⟨outside, rest, rfl, -, htodo⟩ pulled hpulled text htext hne
  simp only [savesKeepRow, hpulled, Option.bind_some, htext, Option.all_some, htodo,
    List.head?_cons, decide_eq_true_eq] at h
  exact h trivial hne

end Follow

/-- The runs of the template DAG with the orders table, numbered. -/
def templateSystem : System ℕ (Table .integer) (List Row) :=
  FileLandingDag.oneDag ordersSource (fun _ => ⟨[], [], []⟩) Table.inserts

/-- A table of checkpoints with one row for every DAG. -/
def sevenStored : Text → Option Text := fun _ => some ['7']

/-- A run that finds the row as it leaves it: both wirings fetch the stored value. -/
theorem templateDag_agrees_orders :
    ∃ T S, exec ordersSystem.step (State.start ordersSystem (Table.ofInts [7]) sevenStored)
        (ordersSource.uneventful 1 .up) = some T ∧
      exec templateSystem.step (State.start templateSystem (Table.ofInts [7]) sevenStored)
        (ordersSource.uneventful 1 .up) = some S ∧
      fetchedFroms S.log = fetchedFroms T.log := by
  have hrun : (exec ordersSystem.step (State.start ordersSystem (Table.ofInts [7]) sevenStored)
      (ordersSource.uneventful 1 .up)).isSome = true := by decide +kernel
  have hcheck : checkAlong ordersSystem.step (savesKeepRow "orders".toList)
      (State.start ordersSystem (Table.ofInts [7]) sevenStored)
      (ordersSource.uneventful 1 .up) = true := by decide +kernel
  have hkeeps := along_of_checkAlong (fun _ _ => savesKeepRow_of_check) hcheck
  have hrow : sevenStored FileLandingDag.dagId = sevenStored "orders".toList := rfl
  obtain ⟨T, hT⟩ := Option.isSome_iff_exists.mp hrun
  obtain ⟨S, hS, hfetched, -⟩ := templateDag_agrees hrow hT hkeeps
  exact ⟨T, S, hT, hS, hfetched⟩

/-- Two runs with an insert in between: the DAG of the factory reads on from where it stopped,
the template DAG reads everything again and leaves no row. -/
theorem templateDag_forgets :
    exec nonOverlapping [] twoOrders = some [2, 1] ∧
    ∃ T S, exec ordersSystem.step oneOrder twoOrders = some T ∧
      exec templateSystem.step (State.start templateSystem (Table.ofInts [7]) fun _ => none)
        twoOrders = some S ∧
      fetchedFroms T.log = [(2, some (.int 7)), (1, none)] ∧
      fetchedFroms S.log = [(2, none), (1, none)] ∧
      T.store "orders".toList = some "12".toList ∧ S.store FileLandingDag.dagId = none := by
  have hfactory : ((exec ordersSystem.step oneOrder twoOrders).map fun T =>
      (fetchedFroms T.log, T.store "orders".toList)) =
      some ([(2, some (.int 7)), (1, none)], some "12".toList) := by decide +kernel
  have htemplate : ((exec templateSystem.step
      (State.start templateSystem (Table.ofInts [7]) fun _ => none) twoOrders).map fun S =>
      (fetchedFroms S.log, S.store FileLandingDag.dagId)) =
      some ([(2, none), (1, none)], none) := by decide +kernel
  obtain ⟨T, hT, hfetchedT⟩ := Option.map_eq_some_iff.mp hfactory
  obtain ⟨S, hS, hfetchedS⟩ := Option.map_eq_some_iff.mp htemplate
  obtain ⟨hfromT, hrowT⟩ := Prod.mk.inj hfetchedT
  obtain ⟨hfromS, hrowS⟩ := Prod.mk.inj hfetchedS
  exact ⟨by decide +kernel, T, S, hT, hS, hfromT, hfromS, hrowT, hrowS⟩

end BatchIngestion
