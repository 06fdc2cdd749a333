import BatchIngestion.OperatorIngestion

/-!
# What the sink holds

Rows are only ever added under the paths of the sink, and every row that is added is a row
that the source of a run has held. It is under a path that the context of this run names.
-/

namespace BatchIngestion

open Python Library

variable {ι σ ρ : Type} [DecidableEq ι] {D : Deployment ι σ ρ} {source : σ}
  {store : Text → Option Text} {sink : Text → List ρ} {es : List (OperatorEvent ι σ)}
  {C : Cluster ι σ ρ}

/-- A run writes to a path: its run context says so. -/
def Cluster.WritesTo (C : Cluster ι σ ρ) (i : ι) (path : Text) : Prop :=
  ∃ raw ctx, (C.runs i).context = some raw ∧ RunContext.fromDict raw = .ok ctx ∧
    ctx.writePath = .ok path

/-- Rows of the sources, as far as a cluster knows. -/
structure Cluster.Authentic (C : Cluster ι σ ρ) (holds : ι → σ → ρ → Prop)
    (sink : Text → List ρ) : Prop where
  /-- A run that has not ended its init task has no run context. -/
  fresh : ∀ i, (C.runs i).task = .init → (C.runs i).context = none
  /-- An evaluated DataFrame consists of rows that the source has held. -/
  frame : ∀ i rows, (C.runs i).frame = some rows → ∀ row ∈ rows, ∃ state ∈ C.sources,
    holds i state row
  /-- Rows are only ever added to the sink, by the runs that write to the path. -/
  stored : ∀ path, ∃ added, C.sink path = sink path ++ added ∧
    ∀ row ∈ added, ∃ i, C.WritesTo i path ∧ ∃ state ∈ C.sources, holds i state row

section Authentic

variable {holds : ι → σ → ρ → Prop} {A : State ι σ (List ρ)} {C' : Cluster ι σ ρ}

/-- What an event does to one run and to the sink keeps the rows authentic. -/
theorem Cluster.Authentic.update (h : C.Authentic holds sink) {i : ι} {r : TaskRun ρ}
    (hruns : C'.runs = Function.update C.runs i r) (hsources : C'.sources = C.sources)
    (hfresh : r.task = .init → r.context = none)
    (hcontext : (C.runs i).context = none ∨ r.context = (C.runs i).context)
    (hframe : ∀ rows, r.frame = some rows → ∀ row ∈ rows, ∃ state ∈ C.sources, holds i state row)
    (hsink : ∀ path, ∃ added, C'.sink path = C.sink path ++ added ∧
      ∀ row ∈ added, C.WritesTo i path ∧ ∃ state ∈ C.sources, holds i state row) :
    C'.Authentic holds sink := by
  have hwrites {j : ι} {path : Text} (hw : C.WritesTo j path) : C'.WritesTo j path := by
    obtain ⟨raw, ctx, hraw, hctx⟩ := hw
    refine ⟨raw, ctx, ?_, hctx⟩
    rw [hruns]
    by_cases hj : j = i
    · subst hj
      rw [Function.update_self]
      rcases hcontext with hnone | hsame
      · exact absurd (hnone.symm.trans hraw) (by simp)
      · exact hsame.trans hraw
    · rw [Function.update_of_ne hj]
      exact hraw
  refine ⟨fun j htask => ?_, fun j rows hrows row hrow => ?_, fun path => ?_⟩
  · rw [hruns] at htask ⊢
    by_cases hj : j = i
    · subst hj
      rw [Function.update_self] at htask ⊢
      exact hfresh htask
    · rw [Function.update_of_ne hj] at htask ⊢
      exact h.fresh j htask
  · rw [hruns] at hrows
    rw [hsources]
    by_cases hj : j = i
    · subst hj
      rw [Function.update_self] at hrows
      exact hframe rows hrows row hrow
    · rw [Function.update_of_ne hj] at hrows
      exact h.frame j rows hrows row hrow
  · obtain ⟨old, hold, hauthentic⟩ := h.stored path
    obtain ⟨added, hadded, hnew⟩ := hsink path
    refine ⟨old ++ added, by rw [hadded, hold, List.append_assoc], fun row hrow => ?_⟩
    rw [hsources]
    rcases List.mem_append.mp hrow with hrow | hrow
    · obtain ⟨j, hw, hheld⟩ := hauthentic row hrow
      exact ⟨j, hwrites hw, hheld⟩
    · obtain ⟨hw, hheld⟩ := hnew row hrow
      exact ⟨i, hwrites hw, hheld⟩

omit [DecidableEq ι] in
/-- A sink that stays as it is. -/
theorem Cluster.nothing_added (C : Cluster ι σ ρ) (holds : ι → σ → ρ → Prop) (i : ι) (path : Text) :
    ∃ added, C.sink path = C.sink path ++ added ∧
      ∀ row ∈ added, C.WritesTo i path ∧ ∃ state ∈ C.sources, holds i state row :=
  ⟨[], (List.append_nil _).symm, by simp⟩

/-- A Spark attempt appends what it has evaluated under its path. -/
theorem Cluster.Authentic.endSpark (h : C.Authentic holds sink) (hfollows : D.Follows A C)
    (htables : D.OfTables) {i : ι} (hin : (C.runs i).isIn .sparkRun = true) (input : SparkInput) :
    (D.endSpark C i input).Authentic holds sink := by
  obtain ⟨htask, hfailed⟩ := TaskRun.isIn_iff.mp hin
  obtain ⟨ctx, hctx, hpushed⟩ := (hfollows.runs i).context (by simp [htask])
  obtain ⟨path, hpath, hcases⟩ := D.sparkTask_cases htables hctx hpushed input C.sink
  have hstored : (D.endSpark C i input).sink = C.sink ∨
      (D.endSpark C i input).sink =
        SinkAdapter.saveInto C.sink .append path ((C.runs i).frame.getD []) := by
    rw [Deployment.endSpark_sink]
    rcases hcases with ⟨-, -, hstored⟩ | ⟨-, -, hstored⟩
    · exact hstored
    · exact .inr hstored
  have hwrites : C.WritesTo i path := ⟨_, _, hctx, hpushed.decoded, hpath⟩
  have hframe : ∀ row ∈ (C.runs i).frame.getD [], ∃ state ∈ C.sources, holds i state row := by
    cases hrows : (C.runs i).frame with
    | none => simp
    | some rows => exact h.frame i rows hrows
  have hadded (path' : Text) : ∃ added, (D.endSpark C i input).sink path' = C.sink path' ++ added ∧
      ∀ row ∈ added, C.WritesTo i path' ∧ ∃ state ∈ C.sources, holds i state row := by
    rcases hstored with hstored | hstored
    · rw [hstored]
      exact C.nothing_added holds i path'
    · rw [hstored, SinkAdapter.saveInto, if_pos rfl]
      by_cases hp : path' = path
      · subst hp
        rw [Function.update_self]
        exact ⟨_, rfl, fun row hrow => ⟨hwrites, hframe row hrow⟩⟩
      · rw [Function.update_of_ne hp]
        exact C.nothing_added holds i path'
  obtain ⟨r, hruns, hcontext, hin', hevaluated⟩ := D.exists_endSpark_runs C i input
  refine h.update hruns (by simp) (fun hinit => ?_) (.inr hcontext) (fun rows hrows => ?_) hadded
  · rcases hin' with hin' | hin' <;> simp [hin', htask] at hinit
  · rcases hevaluated with hnone | hsame
    · simp [hnone] at hrows
    · exact h.frame i rows (hsame ▸ hrows)

/-- Every event keeps the rows authentic. -/
theorem Cluster.Authentic.step (h : C.Authentic holds sink) (hfollows : D.Follows A C)
    (htables : D.OfTables)
    (hreads : ∀ i state f t rows, (D.dag i).source.read state f t = .ok rows →
      ∀ row ∈ rows, holds i state row)
    {e : OperatorEvent ι σ} (hstep : D.step C e = some C') : C'.Authentic holds sink := by
  cases Deployment.transition_of_step hstep with
  | changed =>
    refine ⟨h.fresh, fun i rows hrows row hrow => ?_, fun path => ?_⟩
    · obtain ⟨state, hstate, hheld⟩ := h.frame i rows hrows row hrow
      exact ⟨state, List.mem_cons_of_mem _ hstate, hheld⟩
    · obtain ⟨added, hadded, hauthentic⟩ := h.stored path
      refine ⟨added, hadded, fun row hrow => ?_⟩
      obtain ⟨i, hw, state, hstate, hheld⟩ := hauthentic row hrow
      exact ⟨i, hw, state, List.mem_cons_of_mem _ hstate, hheld⟩
  | @retried i hfailed =>
    refine h.update rfl rfl (fun hinit => ?_) ?_ (fun rows hrows => ?_) (C.nothing_added holds i)
    · cases htask : (C.runs i).task <;> simp_all [TaskRun.restart]
    · cases htask : (C.runs i).task <;> simp [TaskRun.restart, htask, h.fresh i]
    · cases htask : (C.runs i).task with
      | done =>
        rw [TaskRun.restart, htask] at hrows
        exact h.frame i rows hrows
      | init | sparkRun | metricPush => simp [TaskRun.restart, htask] at hrows
  | @fetchedFrom i =>
    exact h.update rfl rfl (h.fresh i) (.inr rfl) (h.frame i) (C.nothing_added holds i)
  | @fetchedTo i =>
    exact h.update rfl rfl (h.fresh i) (.inr rfl) (h.frame i) (C.nothing_added holds i)
  | @initFailed i =>
    exact h.update rfl rfl (h.fresh i) (.inr rfl) (h.frame i) (C.nothing_added holds i)
  | @pushed i _ _ _ hin =>
    exact h.update rfl rfl (fun hinit => by cases hinit)
      (.inl (h.fresh i (TaskRun.isIn_iff.mp hin).1)) (fun rows hrows => by cases hrows)
      (C.nothing_added holds i)
  | @evaluated i rows _ _ hrows =>
    refine h.update rfl rfl (h.fresh i) (.inr rfl) ?_ (C.nothing_added holds i)
    rintro _ ⟨rfl⟩ row hrow
    obtain ⟨_, _, -, -, hread⟩ := Deployment.exists_read_of_evaluation hrows
    exact ⟨C.source, hfollows.current, hreads i _ _ _ _ hread row hrow⟩
  | sparkEnded hin => exact h.endSpark hfollows htables hin _
  | @metricEnded i input hin =>
    obtain ⟨r, hruns, hcontext, hin', hevaluated⟩ := D.exists_runMetric_runs C i input
    refine h.update hruns (by simp) (fun hinit => ?_) (.inr hcontext) (fun rows hrows => ?_) ?_
    · rcases hin' with hin' | hin' <;> simp [hin', (TaskRun.isIn_iff.mp hin).1] at hinit
    · rcases hevaluated with hnone | hsame
      · simp [hnone] at hrows
      · exact h.frame i rows (hsame ▸ hrows)
    · rw [Deployment.runMetric_sink]
      exact C.nothing_added holds i

end Authentic

/-- **The sink holds nothing but rows of the sources.** Runs of any number of DAGs interleave, fail
at any call and are retried. In every reachable state, the rows under a path are the initial ones
followed by others, each of which is a row that the source of some run has held at some time, where
the run context of this run names the path. -/
theorem sink_authentic (htables : D.OfTables) {holds : ι → σ → ρ → Prop}
    (hreads : ∀ i state f t rows, (D.dag i).source.read state f t = .ok rows →
      ∀ row ∈ rows, holds i state row)
    (hdescribed : Along D.step D.Described (Cluster.start source store sink) es)
    (h : exec D.step (Cluster.start source store sink) es = some C) (path : Text) :
    ∃ added, C.sink path = sink path ++ added ∧ ∀ row ∈ added, ∃ i, C.WritesTo i path ∧
      ∃ state ∈ C.sources, holds i state row := by
  have hstart : (Cluster.start source store sink : Cluster ι σ ρ).Authentic holds sink :=
    ⟨fun _ _ => rfl, fun i rows hrows => (by cases hrows),
      fun path => ⟨[], (List.append_nil _).symm, by simp⟩⟩
  have hkeep {A : State ι σ (List ρ)} {C C' : Cluster ι σ ρ} {e : OperatorEvent ι σ}
      (hrel : D.Follows A C ∧ C.Authentic holds sink) (hcond : D.Described C e)
      (hstep : D.step C e = some C') :
      ∃ fs A', exec D.system.step A fs = some A' ∧ D.Follows A' C' ∧ C'.Authentic holds sink := by
    obtain ⟨fs, A', hexec, hfollows⟩ := hrel.1.step htables hcond hstep
    exact ⟨fs, A', hexec, hfollows, hrel.2.step hrel.1 htables hreads hstep⟩
  obtain ⟨-, A, -, -, hauthentic⟩ :=
    exec_refinement_along hkeep ⟨D.follows_start source store sink, hstart⟩ hdescribed h
  exact hauthentic.stored path

omit [DecidableEq ι] in
/-- A SQL read gives rows of the table if the custom queries do. -/
theorem subset_of_sqlRead {kind : ColumnKind} {cfg : TableSourceConfig}
    {custom : Text → List Row → Except PyExc (List Row)}
    (hcustom : ∀ text rows batch, custom text rows = .ok batch → batch ⊆ rows) {table : Table kind}
    {f t : Option CheckpointValue} {batch : List Row}
    (h : sqlRead cfg custom table f t = .ok batch) :
    batch ⊆ table.rows := by
  obtain ⟨built, -, h⟩ := bind_eq_ok_iff.mp h
  obtain ⟨query, -, h⟩ := bind_eq_ok_iff.mp h
  unfold ReadQuery.eval at h
  split at h
  · exact hcustom _ _ _ h
  · split at h
    · cases h
    · obtain rfl := Except.ok.inj h
      exact List.Subset.refl _
  · split at h
    · cases h
    · split at h
      · split at h
        · obtain rfl := Except.ok.inj h
          exact List.filter_subset_self _
        · cases h
      · cases h

/-- The orders in the sink are those of the table. -/
theorem sink_authentic_shop : ∃ C, exec shopDeployment.step shopStart shopHistory = some C ∧
    ∀ path, ∀ row ∈ C.sink path, ∃ table ∈ C.sources, row ∈ table.rows := by
  obtain ⟨C, hC, -⟩ := exec_shop
  have hreads (i : ℕ) (table : Table .integer) (f t : Option CheckpointValue) (rows : List Row)
      (h : (shopDeployment.dag i).source.read table f t = .ok rows) :
      ∀ row ∈ rows, row ∈ table.rows :=
    subset_of_sqlRead (fun _ _ _ hquery => by cases hquery) h
  refine ⟨C, hC, fun path row hrow => ?_⟩
  obtain ⟨added, hadded, hauthentic⟩ :=
    sink_authentic ofTables_shop hreads described_shop hC path
  obtain ⟨i, -, htable⟩ := hauthentic row (by simpa [hadded] using hrow)
  exact htable

end BatchIngestion
