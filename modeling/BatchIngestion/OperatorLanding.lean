import BatchIngestion.OperatorIngestion

/-!
# What a run has landed

A run evaluates its DataFrame in the window of its own run context. When its Spark task is
behind it, the rows of the last evaluation lie under the path that the same context names.
-/

namespace BatchIngestion

open Python Library

variable {ι σ ρ : Type} {D : Deployment ι σ ρ} {C C' : Cluster ι σ ρ} {i : ι}

/-- What a run has landed: its run context names a window and a path, the last evaluation of its
DataFrame has seen a state of the source and given the rows of the window, and these rows lie
under the path in one piece. -/
structure Cluster.Lands (C : Cluster ι σ ρ) (source : Source σ (List ρ)) (i : ι) (ctx : RunContext)
    (path : Text) (state : σ) (rows : List ρ) : Prop where
  /-- The context is the one that the Spark task decodes. -/
  context : ∃ raw, (C.runs i).context = some raw ∧ RunContext.fromDict raw = .ok ctx
  /-- It names the path. -/
  path_eq : ctx.writePath = .ok path
  /-- Its upper checkpoint was computed by an init task. -/
  reported : ∀ v, ctx.checkpointTo = some v → v ∈ C.reported
  /-- The last evaluation has seen the state and given the rows. -/
  evaluated : C.evaluated i = some (state, rows)
  /-- The state is one that the sources have had. -/
  held : state ∈ C.sources
  /-- The rows are the answer of the source to the window. -/
  read : source.read state ctx.checkpointFrom ctx.checkpointTo = .ok rows
  /-- They lie under the path. -/
  stored : rows <:+: C.sink path
  /-- Their number is the record count, if the records are counted. -/
  recordCount : (C.runs i).recordCount = if source.countRecords then some rows.length else none

/-! ### One run -/

/-- What a run and the cluster know about its window. -/
structure Deployment.Traces (D : Deployment ι σ ρ) (C : Cluster ι σ ρ) (i : ι) : Prop where
  /-- What the native clients have answered is reported. -/
  native : ∀ native, (C.runs i).native = some native → ∀ v,
    InitOperator.fetchCheckpointTo (D.dag i).source.readType (D.dag i).source.config native =
      some v → v ∈ C.reported
  /-- The run context is the one that the init task has pushed. -/
  context : (C.runs i).task ≠ .init → ∃ ctx : RunContext, (C.runs i).context = some ctx.toDict ∧
    ctx.Pushed (D.dag i).source ∧ ∀ v, ctx.checkpointTo = some v → v ∈ C.reported
  /-- The DataFrame of the Spark task is the one that was evaluated last. -/
  frame : (C.runs i).task = .sparkRun → ∀ rows, (C.runs i).frame = some rows →
    ∃ ctx : RunContext, ∃ state ∈ C.sources, (C.runs i).context = some ctx.toDict ∧
      C.evaluated i = some (state, rows) ∧
      (D.dag i).source.read state ctx.checkpointFrom ctx.checkpointTo = .ok rows
  /-- A run whose Spark task is behind it has landed its rows. -/
  landed : (C.runs i).task = .metricPush ∨ (C.runs i).task = .done →
    ∃ ctx path state rows, C.Lands (D.dag i).source i ctx path state rows

/-- The sources, the reported values and the sink only grow. -/
structure Cluster.Extends (C C' : Cluster ι σ ρ) : Prop where
  /-- The states of the sources. -/
  sources : C.sources ⊆ C'.sources
  /-- The reported values. -/
  reported : C.reported ⊆ C'.reported
  /-- The sink. -/
  sink : ∀ path, C.sink path <:+: C'.sink path

/-- A run keeps what its tasks hand on. -/
structure TaskRun.Keeps (r r' : TaskRun ρ) : Prop where
  /-- The run context. -/
  context : r'.context = r.context
  /-- The record count. -/
  recordCount : r'.recordCount = r.recordCount

/-- What has landed stays landed. -/
theorem Cluster.Lands.mono {source : Source σ (List ρ)} {ctx : RunContext} {path : Text} {state : σ}
    {rows : List ρ} (h : C.Lands source i ctx path state rows) (hextends : C.Extends C')
    (hrun : (C.runs i).Keeps (C'.runs i)) (hevaluated : C'.evaluated i = C.evaluated i) :
    C'.Lands source i ctx path state rows where
  context := by
    rw [hrun.context]
    exact h.context
  path_eq := h.path_eq
  reported v hv := hextends.reported (h.reported v hv)
  evaluated := hevaluated.trans h.evaluated
  held := hextends.sources h.held
  read := h.read
  stored := h.stored.trans (hextends.sink path)
  recordCount := hrun.recordCount.trans h.recordCount

/-- A run context stays as it was pushed. -/
theorem Deployment.Traces.context_of_extends (h : D.Traces C i) (htask : (C.runs i).task ≠ .init)
    (hextends : C.Extends C') : ∃ ctx : RunContext, (C.runs i).context = some ctx.toDict ∧
      ctx.Pushed (D.dag i).source ∧ ∀ v, ctx.checkpointTo = some v → v ∈ C'.reported := by
  obtain ⟨ctx, hctx, hpushed, hreported⟩ := h.context htask
  exact ⟨ctx, hctx, hpushed, fun v hv => hextends.reported (hreported v hv)⟩

/-- A run that goes on with its task, or waits, keeps its window. -/
theorem Deployment.Traces.mono (h : D.Traces C i) (hextends : C.Extends C')
    (htask : (C'.runs i).task = (C.runs i).task) (hrun : (C.runs i).Keeps (C'.runs i))
    (hnative : (C'.runs i).native = none ∨ (C'.runs i).native = (C.runs i).native)
    (hframe : (C'.runs i).frame = none ∨ (C'.runs i).frame = (C.runs i).frame)
    (hevaluated : C'.evaluated i = C.evaluated i) : D.Traces C' i where
  native native hn v hv := by
    rcases hnative with hnone | hsame
    · cases hnone.symm.trans hn
    · exact hextends.reported (h.native native (hsame.symm.trans hn) v hv)
  context hne := by
    rw [htask] at hne
    rw [hrun.context]
    exact h.context_of_extends hne hextends
  frame hspark rows hrows := by
    rcases hframe with hnone | hsame
    · cases hnone.symm.trans hrows
    · obtain ⟨ctx, state, hstate, hctx, hlast, hread⟩ :=
        h.frame (htask.symm.trans hspark) rows (hsame.symm.trans hrows)
      exact ⟨ctx, state, hextends.sources hstate, hrun.context.trans hctx,
        hevaluated.trans hlast, hread⟩
  landed hlater := by
    rw [htask] at hlater
    obtain ⟨ctx, path, state, rows, hlands⟩ := h.landed hlater
    exact ⟨ctx, path, state, rows, hlands.mono hextends hrun hevaluated⟩

/-- A run in its init task. -/
theorem Deployment.traces_of_init (htask : (C.runs i).task = .init)
    (hnative : ∀ native, (C.runs i).native = some native → ∀ v,
      InitOperator.fetchCheckpointTo (D.dag i).source.readType (D.dag i).source.config native =
        some v → v ∈ C.reported) : D.Traces C i where
  native := hnative
  context hne := absurd htask hne
  frame hspark := by cases htask.symm.trans hspark
  landed hlater := by rcases hlater with h | h <;> cases htask.symm.trans h

/-- A run at the start of its Spark task. -/
theorem Deployment.traces_of_sparkRun {ctx : RunContext}
    (hrun : C.runs i = { task := .sparkRun, context := some ctx.toDict })
    (hpushed : ctx.Pushed (D.dag i).source)
    (hreported : ∀ v, ctx.checkpointTo = some v → v ∈ C.reported) : D.Traces C i where
  native native hn := by
    rw [hrun] at hn
    cases hn
  context _ := ⟨ctx, by rw [hrun], hpushed, hreported⟩
  frame _ rows hrows := by
    rw [hrun] at hrows
    cases hrows
  landed hlater := by
    rw [hrun] at hlater
    rcases hlater with h | h <;> cases h

/-- A run whose Spark task is behind it. -/
theorem Deployment.traces_of_landed {ctx : RunContext} {task : Task} {recordCount : Option ℕ}
    (hrun : C.runs i = { task, context := some ctx.toDict, recordCount })
    (htask : task = .metricPush ∨ task = .done) (hpushed : ctx.Pushed (D.dag i).source)
    (hreported : ∀ v, ctx.checkpointTo = some v → v ∈ C.reported)
    (hlands : ∃ ctx path state rows, C.Lands (D.dag i).source i ctx path state rows) :
    D.Traces C i where
  native native hn := by
    rw [hrun] at hn
    cases hn
  context _ := ⟨ctx, by rw [hrun], hpushed, hreported⟩
  frame hspark := by
    rw [hrun] at hspark
    rcases htask with rfl | rfl <;> cases hspark
  landed _ := hlands

/-- An attempt that fails keeps the window of its run. -/
theorem Deployment.Traces.fail (h : D.Traces C i) (hextends : C.Extends C')
    (hrun : C'.runs i = { C.runs i with failed := true })
    (hevaluated : C'.evaluated i = C.evaluated i) : D.Traces C' i := by
  refine h.mono hextends ?_ ⟨?_, ?_⟩ (.inr ?_) (.inr ?_) hevaluated <;> rw [hrun]

section Step

variable [DecidableEq ι]

omit [DecidableEq ι] in
/-- A cluster that keeps the sources, the reported values and the sink. -/
theorem Cluster.extends_of_eq (hsources : C'.sources = C.sources)
    (hreported : C'.reported = C.reported) (hsink : C'.sink = C.sink) : C.Extends C' where
  sources := hsources ▸ List.Subset.refl _
  reported := hreported ▸ List.Subset.refl _
  sink _ := hsink ▸ List.infix_rfl

/-- A failed task that starts over. -/
theorem Deployment.Traces.retry (h : D.Traces C i) :
    D.Traces (C.setRun i (C.runs i).restart) i := by
  have hrun {r : TaskRun ρ} (hrestart : (C.runs i).restart = r) :
      (C.setRun i (C.runs i).restart).runs i = r := (Function.update_self ..).trans hrestart
  have hextends : C.Extends (C.setRun i (C.runs i).restart) := Cluster.extends_of_eq rfl rfl rfl
  cases htask : (C.runs i).task with
  | init =>
    have hnew := hrun (r := { task := .init }) (by rw [TaskRun.restart, htask])
    refine traces_of_init (by rw [hnew]) fun native hn => ?_
    rw [hnew] at hn
    cases hn
  | sparkRun =>
    obtain ⟨ctx, hctx, hpushed, hreported⟩ := h.context (by simp [htask])
    exact traces_of_sparkRun (hrun (by rw [TaskRun.restart, htask, hctx])) hpushed hreported
  | metricPush =>
    have hnew := hrun (r := { task := .metricPush, context := (C.runs i).context
                              recordCount := (C.runs i).recordCount })
      (by rw [TaskRun.restart, htask])
    refine h.mono hextends ?_ ⟨?_, ?_⟩ (.inl ?_) (.inl ?_) rfl <;> rw [hnew]
    exact htask.symm
  | done =>
    have hnew := hrun (r := C.runs i) (by rw [TaskRun.restart, htask])
    refine h.mono hextends ?_ ⟨?_, ?_⟩ (.inr ?_) (.inr ?_) rfl <;> rw [hnew]

/-- The native client answers. -/
theorem Deployment.traces_fetchTo (htask : (C.runs i).task = .init) (sourceUp : Bool) :
    C.Extends (D.fetchTo C i sourceUp) ∧ D.Traces (D.fetchTo C i sourceUp) i := by
  have hrun : (D.fetchTo C i sourceUp).runs i = { C.runs i with
      native := some (if sourceUp then (D.dag i).source.native C.source else Native.down) } :=
    Function.update_self ..
  refine ⟨⟨List.Subset.refl _, List.subset_append_right _ _, fun _ => List.infix_rfl⟩,
    traces_of_init (by rw [hrun, htask]) fun native hn v hv => ?_⟩
  rw [hrun] at hn
  obtain rfl := Option.some.inj hn
  exact List.mem_append_left _ (Option.mem_toList.mpr hv)

/-- The init task pushes a run context. -/
theorem Deployment.Traces.push (h : D.Traces C i) {input : InitInput} {ctx : RunContext}
    {native : Native} (hctx : D.initTask i (C.runs i) input = .ok ctx)
    (hnative : (C.runs i).native = some native)
    (hdescribes : ctx.readType = (D.dag i).source.readType ∧
      ctx.sourceConfig = (D.dag i).source.config ∧
      ctx.countRecords = (D.dag i).source.countRecords) :
    D.Traces (C.setRun i { task := .sparkRun, context := some ctx.toDict }) i := by
  obtain ⟨hread, hsource, hcounts⟩ := hdescribes
  obtain ⟨_, _, hcoherent, -⟩ := D.xcom_of_initTask hctx hnative
  refine traces_of_sparkRun (Function.update_self ..) ⟨hcoherent, hsource, hcounts⟩ fun v hv => ?_
  obtain ⟨cfg, -, hexecute⟩ := bind_eq_ok_iff.mp hctx
  have hto := (InitOperator.checkpoints_of_execute hexecute).2
  rw [hread, hsource, hnative] at hto
  exact h.native native hnative v (hto.symm.trans hv)

/-- What a Spark task evaluates is the answer of the source to the window of its context. -/
theorem Deployment.Traces.evaluate (h : D.Traces C i) (hcurrent : C.source ∈ C.sources)
    (htask : (C.runs i).task = .sparkRun) {rows : List ρ} (hrows : D.evaluation i C = some rows) :
    D.Traces (C.evaluate i rows) i := by
  have hrun : (C.evaluate i rows).runs i = { C.runs i with frame := some rows } :=
    Function.update_self ..
  obtain ⟨ctx, hctx, hpushed, hreported⟩ := h.context (by simp [htask])
  have hread := Deployment.read_of_evaluation hctx hpushed hrows
  refine ⟨fun native hn => ?_, fun _ => ?_, fun _ rows' hrows' => ?_, fun hlater => ?_⟩
  · rw [hrun] at hn
    exact h.native native hn
  · rw [hrun]
    exact ⟨ctx, hctx, hpushed, hreported⟩
  · rw [hrun] at hrows' ⊢
    obtain rfl := Option.some.inj hrows'
    exact ⟨ctx, C.source, hcurrent, hctx, Function.update_self .., hread⟩
  · rw [hrun] at hlater
    rcases hlater with h | h <;> cases htask.symm.trans h

/-- A Spark attempt that returns has landed its rows. -/
theorem Deployment.Traces.endSpark (h : D.Traces C i) (htables : D.OfTables)
    (hin : (C.runs i).isIn .sparkRun = true) {input : SparkInput}
    (hready : (C.runs i).frame.isSome = true ∨
      (input.call (C.runs i).evaluatingCall).isOk = false) :
    C.Extends (D.endSpark C i input) ∧ D.Traces (D.endSpark C i input) i := by
  obtain ⟨htask, hfailed⟩ := TaskRun.isIn_iff.mp hin
  obtain ⟨ctx, hctx, hpushed, hreported⟩ := h.context (by simp [htask])
  rcases D.endSpark_cases htables hctx hpushed hready with
    ⟨e, grown, -, hsink, hend⟩ | ⟨path, rows, hpath, hrows, hend⟩
  · have hextends : C.Extends (D.endSpark C i input) := by
      rw [hend]
      exact ⟨List.Subset.refl _, List.Subset.refl _, hsink⟩
    refine ⟨hextends, h.fail hextends ?_ ?_⟩ <;> rw [hend]
    · exact Function.update_self ..
    · rfl
  · obtain ⟨ctx', state, hstate, hctx', hevaluated, hread⟩ := h.frame htask rows hrows
    obtain ⟨hfrom, hto⟩ :=
      RunContext.window_eq_of_toDict_eq (Option.some.inj (hctx.symm.trans hctx'))
    rw [← hfrom, ← hto] at hread
    rw [hend]
    set count := if (D.dag i).source.countRecords then some rows.length else none
    set C' : Cluster ι σ ρ := { C with
      sink := SinkAdapter.saveInto C.sink .append path rows : Cluster ι σ ρ }.setRun i {
        task := .metricPush, context := (C.runs i).context, recordCount := count }
    have hrun : C'.runs i = {
        task := .metricPush, context := some ctx.toDict, recordCount := count } := by
      rw [← hctx]
      exact Function.update_self ..
    have hextends : C.Extends C' :=
      ⟨List.Subset.refl _, List.Subset.refl _, SinkAdapter.infix_saveInto C.sink path rows⟩
    refine ⟨hextends, traces_of_landed hrun (.inl rfl) hpushed hreported
      ⟨ctx.dropSinkExtra, path, state, rows, ?_⟩⟩
    exact {
      context := ⟨_, by rw [hrun], hpushed.decoded⟩
      path_eq := hpath
      reported := hreported
      evaluated := hevaluated
      held := hstate
      read := hread
      stored := SinkAdapter.infix_saveInto_self C.sink path rows
      recordCount := by rw [hrun] }

/-- A metric attempt keeps what its run has landed. -/
theorem Deployment.Traces.runMetric (h : D.Traces C i) (hin : (C.runs i).isIn .metricPush = true)
    (input : MetricTaskInput) :
    C.Extends (D.runMetric C i input) ∧ D.Traces (D.runMetric C i input) i := by
  obtain ⟨htask, hfailed⟩ := TaskRun.isIn_iff.mp hin
  obtain ⟨ctx, hctx, hpushed, hreported⟩ := h.context (by simp [htask])
  obtain ⟨ctx', path, state, rows, hlands⟩ := h.landed (.inl htask)
  unfold Deployment.runMetric
  dsimp only
  split
  · rename_i text hsaved
    set C' : Cluster ι σ ρ := { C with
      accepted := (acceptedMessages (D.publishTask i (C.runs i) input).log).map
        (fun m => (i, m)) ++ C.accepted
      store := text.elim C.store fun t => Function.update C.store (D.dag i).dagId (some t)
      runs := Function.update C.runs i
        { task := .done, context := (C.runs i).context, recordCount := (C.runs i).recordCount } }
    have hrun : C'.runs i = { task := .done, context := (C.runs i).context
                              recordCount := (C.runs i).recordCount } := Function.update_self ..
    have hextends : C.Extends C' := Cluster.extends_of_eq rfl rfl rfl
    refine ⟨hextends, traces_of_landed (hrun.trans (by rw [hctx])) (.inr rfl) hpushed hreported
      ⟨ctx', path, state, rows, hlands.mono hextends ?_ rfl⟩⟩
    constructor <;> rw [hrun]
  · have hextends (accepted : List (ι × QueueMessage)) :
        C.Extends ({ C with accepted }.fail i) := Cluster.extends_of_eq rfl rfl rfl
    exact ⟨hextends _, h.fail (hextends _) (Function.update_self ..) rfl⟩

/-! ### All runs -/

/-- What one run does leaves the windows of the others alone. -/
theorem Deployment.Traces.update (h : ∀ j, D.Traces C j)
    (hruns : ∀ j, j ≠ i → C'.runs j = C.runs j)
    (hevaluated : ∀ j, j ≠ i → C'.evaluated j = C.evaluated j)
    (hi : C.Extends C' ∧ D.Traces C' i) (j : ι) : D.Traces C' j := by
  obtain ⟨hextends, hi⟩ := hi
  by_cases hj : j = i
  · exact hj ▸ hi
  · have hrun := hruns j hj
    exact (h j).mono hextends (by rw [hrun]) ⟨by rw [hrun], by rw [hrun]⟩ (.inr (by rw [hrun]))
      (.inr (by rw [hrun])) (hevaluated j hj)

/-- Every event keeps the windows of all runs. -/
theorem Deployment.Traces.step (h : C.source ∈ C.sources ∧ ∀ j, D.Traces C j)
    (htables : D.OfTables) {e : OperatorEvent ι σ} (hdescribed : D.Described C e)
    (hstep : D.step C e = some C') : C'.source ∈ C'.sources ∧ ∀ j, D.Traces C' j := by
  obtain ⟨hcurrent, h⟩ := h
  have hother (r : TaskRun ρ) (i j : ι) (hj : j ≠ i) : (C.setRun i r).runs j = C.runs j :=
    Function.update_of_ne hj ..
  have hextends (r : TaskRun ρ) (i : ι) : C.Extends (C.setRun i r) :=
    Cluster.extends_of_eq rfl rfl rfl
  cases transition_of_step hstep with
  | changed =>
    have hgrows (next : σ) : C.Extends { C with source := next, sources := next :: C.sources } :=
      ⟨List.subset_cons_self _ _, List.Subset.refl _, fun _ => List.infix_rfl⟩
    exact ⟨List.mem_cons_self, fun j =>
      (h j).mono (hgrows _) rfl ⟨rfl, rfl⟩ (.inr rfl) (.inr rfl) rfl⟩
  | @retried i =>
    exact ⟨hcurrent, update h (hother _ i) (fun _ _ => rfl) ⟨hextends _ _, (h i).retry⟩⟩
  | @fetchedFrom i =>
    set r : TaskRun ρ := { C.runs i with row := some (C.store (D.dag i).dagId) }
    have hrun : (C.setRun i r).runs i = r := Function.update_self ..
    refine ⟨hcurrent, update h (hother _ i) (fun _ _ => rfl) ⟨hextends _ _, ?_⟩⟩
    refine (h i).mono (hextends _ _) ?_ ⟨?_, ?_⟩ (.inr ?_) (.inr ?_) rfl <;> rw [hrun]
  | @fetchedTo i sourceUp hin =>
    exact ⟨hcurrent, update h (hother _ i) (fun _ _ => rfl)
      (traces_fetchTo (TaskRun.isIn_iff.mp hin).1 sourceUp)⟩
  | @initFailed i =>
    exact ⟨hcurrent, update h (hother _ i) (fun _ _ => rfl)
      ⟨hextends _ _, (h i).fail (hextends _ _) (Function.update_self ..) rfl⟩⟩
  | @pushed i _ _ _ hin hctx hnative =>
    exact ⟨hcurrent, update h (hother _ i) (fun _ _ => rfl)
      ⟨hextends _ _, (h i).push hctx hnative (hdescribed _ hctx)⟩⟩
  | @evaluated i rows hin hframe hrows =>
    exact ⟨hcurrent, update h (hother _ i) (fun _ hj => Function.update_of_ne hj ..)
      ⟨Cluster.extends_of_eq rfl rfl rfl,
        (h i).evaluate hcurrent (TaskRun.isIn_iff.mp hin).1 hrows⟩⟩
  | @sparkEnded i input hin hready =>
    obtain ⟨r, hruns, -⟩ := D.exists_endSpark_runs C i input
    refine ⟨?_, update h (fun j hj => ?_) (fun _ _ => ?_) ((h i).endSpark htables hin hready)⟩
    · rw [endSpark_sources, endSpark_source]
      exact hcurrent
    · rw [hruns]
      exact Function.update_of_ne hj ..
    · rw [endSpark_evaluated]
  | @metricEnded i input hin =>
    obtain ⟨r, hruns, -⟩ := D.exists_runMetric_runs C i input
    refine ⟨?_, update h (fun j hj => ?_) (fun _ _ => ?_) ((h i).runMetric hin input)⟩
    · rw [runMetric_sources, runMetric_source]
      exact hcurrent
    · rw [hruns]
      exact Function.update_of_ne hj ..
    · rw [runMetric_evaluated]

variable {source : σ} {store : Text → Option Text} {sink : Text → List ρ}
  {es : List (OperatorEvent ι σ)}

/-- The windows of all runs, in every reachable state. -/
theorem Deployment.traces_of_exec (htables : D.OfTables)
    (hdescribed : Along D.step D.Described (Cluster.start source store sink) es)
    (h : exec D.step (Cluster.start source store sink) es = some C) (i : ι) : D.Traces C i := by
  have hstart : (Cluster.start source store sink : Cluster ι σ ρ).source ∈
      (Cluster.start source store sink : Cluster ι σ ρ).sources ∧
      ∀ j, D.Traces (Cluster.start source store sink) j :=
    ⟨List.mem_singleton_self source, fun j => traces_of_init rfl fun _ hn => (by cases hn)⟩
  exact (exec_invariant_along (fun hinv hcond hstep => Traces.step hinv htables hcond hstep) hstart
    hdescribed h).2 i

/-- **A run whose Spark task is behind it has its rows in the sink.** Runs of any number of DAGs
that read tables interleave, fail at any call and are retried. In every reachable state, the rows
that the last evaluation of the DataFrame of such a run has given are the answer of a state of the
source to the window of the run's own context, and they lie under the path of this context. -/
theorem operators_land (htables : D.OfTables)
    (hdescribed : Along D.step D.Described (Cluster.start source store sink) es)
    (h : exec D.step (Cluster.start source store sink) es = some C)
    (htask : (C.runs i).task = .metricPush ∨ (C.runs i).task = .done) :
    ∃ ctx path state rows, C.Lands (D.dag i).source i ctx path state rows :=
  (D.traces_of_exec htables hdescribed h i).landed htask

/-- The first run of the shop has landed both orders, although it has computed its `checkpoint_to`
before the second one came. -/
theorem operators_land_shop : ∃ C, exec shopDeployment.step shopStart shopHistory = some C ∧
    ∃ ctx path state rows, C.Lands (shopDeployment.dag 1).source 1 ctx path state rows ∧
      rows.length = 2 := by
  have hrun : ((exec shopDeployment.step shopStart shopHistory).bind fun C =>
      if (C.runs 1).task = .done ∧ (C.runs 1).recordCount = some 2 then some () else none) =
        some () := by decide +kernel
  obtain ⟨C, hC, hfacts⟩ := Option.bind_eq_some_iff.mp hrun
  split at hfacts
  · rename_i hdone
    obtain ⟨ctx, path, state, rows, hlands⟩ :=
      operators_land ofTables_shop described_shop hC (.inr hdone.1)
    have hcount := hlands.recordCount.symm.trans hdone.2
    exact ⟨C, hC, ctx, path, state, rows, hlands, Option.some.inj hcount⟩
  · simp at hfacts

end Step

end BatchIngestion
