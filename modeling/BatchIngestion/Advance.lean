import BatchIngestion.HandOff

/-!
# When a checkpoint advances

Any number of runs of any number of DAGs share the table of checkpoints. A row changes
only when a run of its DAG saves, behind the Spark task and the metric of this run, and
a step that raises changes no row.
-/

namespace BatchIngestion

open Python Library

variable {ι σ β : Type} [DecidableEq ι]

/-- A failed attempt has left every row as it was. -/
theorem System.store_eq_of_failed {sys : System ι σ β} {initial : Text → Option Text}
    {s t : State ι σ β} {e : Event ι σ} {i : ι} (hs : Simulates sys initial s)
    (h : sys.step s e = some t) (hactor : e.actor = some i) (hfailed : (t.runs i).failed = true) :
    t.store = s.store := by
  cases System.transition_of_step h with
  | source => rfl
  | @performed j outside step rest effect hgoing htodo heffect =>
    obtain rfl : j = i := Option.some.inj hactor
    rw [hs.store_eq] at heffect
    have hunfailed := ((hs.tracks j).justified hgoing htodo heffect).unfailed
    have hrun : (Function.update s.runs j { effect.run with todo := rest } j).failed = true :=
      hfailed
    rw [Function.update_self] at hrun
    exact absurd (hunfailed.symm.trans hrun) (by decide)
  | failed => rfl
  | retried => rfl
  | advanced => rfl

/-- A changed row belongs to a save. -/
theorem System.saved_of_store_ne {sys : System ι σ β} {initial : Text → Option Text}
    {s t : State ι σ β} {e : Event ι σ} (hs : Simulates sys initial s)
    (h : sys.step s e = some t) (hne : t.store ≠ s.store) :
    ∃ i text, s.Performs e i .saveCheckpoint ∧
      t.store = Function.update s.store (sys.dag i).dagId (some text) ∧
      sys.Allowed initial s.source s.log i (.saved text) := by
  obtain ⟨ht, hledger⟩ := sys.step_refines hs h
  have hsame (hlog : t.log = s.log) : t.store = s.store := by
    rw [ht.store_eq, hs.store_eq, hlog]
  cases hledger with
  | moved _ _ _ hlog => exact absurd (hsame hlog) hne
  | silent _ _ hlog => exact absurd (hsame hlog) hne
  | @acted i a _ _ hlog hallowed hperforms =>
    cases a with
    | saved text =>
      have hstore : t.store = Function.update s.store (sys.dag i).dagId (some text) := by
        rw [ht.store_eq, hs.store_eq, hlog, System.stored_saved]
      exact ⟨i, text, State.performs_saveCheckpoint hperforms, hstore, hallowed⟩
    | _ =>
      refine absurd ?_ hne
      rw [ht.store_eq, hs.store_eq, hlog]
      rfl

/-- **A checkpoint advances only behind a completed run.** In every reachable state of any
number of runs of any number of DAGs, a step that raises leaves all rows as they were. When
a row changes, a run of its DAG performs its save step, the row becomes the text of the
`checkpoint_to` of this run, its Spark task has succeeded, its success metric is published,
and no other row changes. -/
theorem checkpoint_advances {dagId : ι → Text} {source : ι → Source σ β} {info : ι → RunInfo}
    {moves : List CheckpointValue → σ → σ → Bool} {initialSource : σ}
    {store : Text → Option Text} {es : List (Event ι σ)} {e : Event ι σ} {s t : State ι σ β}
    (hreach : exec (DagFactory.dags dagId source info moves).step
      (State.start (DagFactory.dags dagId source info moves) initialSource store) es = some s)
    (hstep : (DagFactory.dags dagId source info moves).step s e = some t) :
    (∀ i, e.actor = some i → (t.runs i).failed = true → t.store = s.store) ∧
    ∀ d, t.store d ≠ s.store d → ∃ i text v,
      s.Performs e i .saveCheckpoint ∧ dagId i = d ∧ lastTo s.log i = some (some v) ∧
      v.serialise.text = .ok (some text) ∧ t.store d = some text ∧
      (∀ d', d' ≠ d → t.store d' = s.store d') ∧ Finished s.log i .sparkRun ∧
      ∃ payload : Payload, (i, .published payload) ∈ s.log ∧ payload.IsSuccess := by
  have hs := System.simulates_of_exec hreach
  refine ⟨fun i hactor hfailed => System.store_eq_of_failed hs hstep hactor hfailed, ?_⟩
  intro d hne
  obtain ⟨i, text, hperforms, hstore, hallowed⟩ :=
    System.saved_of_store_ne hs hstep fun heq => hne (congrFun heq d)
  have hdag : dagId i = d := by
    by_contra hdag
    exact hne (by rw [hstore]; exact Function.update_of_ne (Ne.symm hdag) _ _)
  subst hdag
  cases hallowed with
  | saved hspark hto htext hpublished hreports =>
    obtain ⟨v, rfl, hv⟩ := exists_of_checkpointText htext
    obtain ⟨_, _, _, _, rfl⟩ := hreports
    refine ⟨i, text, v, hperforms, rfl, hto, hv, ?_, fun d' hd' => ?_, hspark, _, hpublished,
      DagFactory.isSuccess_payload⟩
    · rw [hstore]
      exact Function.update_self _ _ _
    · rw [hstore]
      exact Function.update_of_ne hd' _ _

/-- The last step of the first run saves its checkpoint. -/
theorem checkpoint_advances_oneOrder :
    ∃ s t, exec ordersSystem.step oneOrder
        (List.replicate 9 (.perform 1 .up) ++ .next 1 :: List.replicate 11 (.perform 1 .up) ++
          .next 1 :: List.replicate 4 (.perform 1 .up)) = some s ∧
      ordersSystem.step s (.perform 1 .up) = some t ∧
      t.store "orders".toList ≠ s.store "orders".toList ∧
      ∃ i, Finished s.log i .sparkRun := by
  have hrun : ((exec ordersSystem.step oneOrder
      (List.replicate 9 (.perform 1 .up) ++ .next 1 :: List.replicate 11 (.perform 1 .up) ++
        .next 1 :: List.replicate 4 (.perform 1 .up))).bind fun s =>
      (ordersSystem.step s (.perform 1 .up)).map fun t =>
        (s.store "orders".toList, t.store "orders".toList)) = some (none, some "7".toList) := by
    decide +kernel
  obtain ⟨s, hs, hrun⟩ := Option.bind_eq_some_iff.mp hrun
  obtain ⟨t, ht, hstores⟩ := Option.map_eq_some_iff.mp hrun
  obtain ⟨hbefore, hafter⟩ := Prod.mk.inj hstores
  have hne : t.store "orders".toList ≠ s.store "orders".toList := by
    rw [hbefore, hafter]
    simp
  obtain ⟨i, -, -, -, -, -, -, -, -, hspark, -⟩ := (checkpoint_advances hs ht).2 _ hne
  exact ⟨s, t, hs, ht, hne, i, hspark⟩

end BatchIngestion
