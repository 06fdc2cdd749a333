import BatchIngestion.Library.Execution
import BatchIngestion.Tracking

/-!
# Pipelines refine the ledger

Every event of the system is a change of the source, an action that the ledger
allows, or invisible to the ledger, and the table of checkpoints is the one that
the log determines. What the changes of the source and the allowed actions preserve
therefore holds in every reachable state of the pipelines.
-/

namespace BatchIngestion

open Python Library

variable {ι σ β : Type} [DecidableEq ι]

/-! ### The events of the system -/

/-- What an event does to the state. -/
inductive System.Transition (sys : System ι σ β) (s : State ι σ β) :
    Event ι σ → State ι σ β → Prop
  /-- The source changes. -/
  | source {next : σ} (hmoves : sys.moves (reportedIn s.log) s.source next = true) :
      Transition sys s (.source next) { s with source := next }
  /-- A run performs a step. -/
  | performed {i : ι} {outside : Outside} {step : Step} {rest : List Step} {effect : Effect σ β}
      (hfailed : (s.runs i).failed = false) (htodo : (s.runs i).todo = step :: rest)
      (heffect : step.effect (sys.dag i) (sys.info i) outside s.source
        (s.store (sys.dag i).dagId) (s.runs i) = .ok effect) :
      Transition sys s (.perform i outside)
        (((s.setRun i { effect.run with todo := rest }).upsert (sys.dag i).dagId
          effect.upsert).emit i effect.emitted)
  /-- A step raises, by itself or from outside. -/
  | failed {e : Event ι σ} {i : ι} {error : Text} {metricUp : Bool} (hactor : e.actor = some i) :
      Transition sys s e (sys.fail s i error metricUp)
  /-- A failed task is retried. -/
  | retried {i : ι} : Transition sys s (.retry i) (s.setRun i ((s.runs i).restart (sys.dag i)))
  /-- A task succeeds. -/
  | advanced {i : ι} (htodo : (s.runs i).todo = []) (htask : (s.runs i).task ≠ .done) :
      Transition sys s (.next i) ((s.setRun i ((s.runs i).advance (sys.dag i))).emit i
        (some (.finished (s.runs i).task)))

/-- Every enabled event is one of the transitions. -/
theorem System.transition_of_step {sys : System ι σ β} {s t : State ι σ β} {e : Event ι σ}
    (h : sys.step s e = some t) : sys.Transition s e t := by
  cases e with
  | source next =>
    simp only [System.step] at h
    split at h
    · rename_i hmoves
      obtain rfl := Option.some.inj h
      exact .source hmoves
    · simp at h
  | perform i outside =>
    simp only [System.step] at h
    split at h
    · rename_i step rest hfailed htodo
      obtain rfl := Option.some.inj h
      unfold System.performStep
      dsimp only
      split
      · rename_i effect heffect
        exact .performed hfailed htodo heffect
      · exact .failed rfl
    · simp at h
  | raise i error metricUp =>
    simp only [System.step] at h
    split at h
    · obtain rfl := Option.some.inj h
      exact .failed rfl
    · simp at h
  | retry i =>
    simp only [System.step] at h
    split at h
    · obtain rfl := Option.some.inj h
      exact .retried
    · simp at h
  | next i =>
    simp only [System.step] at h
    split at h
    · rename_i hnext
      obtain rfl := Option.some.inj h
      exact .advanced hnext.2.1 hnext.2.2
    · simp at h

/-! ### Simulation -/

/-- A state of the pipelines agrees with its log. -/
structure Simulates (sys : System ι σ β) (initial : Text → Option Text) (s : State ι σ β) :
    Prop where
  /-- The table of checkpoints is the one that the log determines. -/
  store_eq : s.store = sys.stored initial s.log
  /-- Every run is tracked. -/
  tracks : ∀ i, Tracks sys s.log i (s.runs i)

/-- A run performs a step in an event. -/
def State.Performs (s : State ι σ β) (e : Event ι σ) (i : ι) (step : Step) : Prop :=
  ∃ outside rest, e = .perform i outside ∧ (s.runs i).failed = false ∧
    (s.runs i).todo = step :: rest

omit [DecidableEq ι] in
/-- A save is performed by the save step. -/
theorem State.performs_saveCheckpoint {s : State ι σ β} {e : Event ι σ} {i : ι} {text : Text}
    (h : (Action.saved text : Action σ β).steps = [] ∨
      ∃ step ∈ (Action.saved text : Action σ β).steps, s.Performs e i step) :
    s.Performs e i .saveCheckpoint := by
  rcases h with hnil | ⟨step, hstep, hperforms⟩
  · simp [Action.steps] at hnil
  · obtain rfl : step = .saveCheckpoint := by simpa [Action.steps] using hstep
    exact hperforms

omit [DecidableEq ι] in
/-- A read is performed by a step that evaluates the DataFrame. -/
theorem State.performs_read {s : State ι σ β} {e : Event ι σ} {i : ι} {source : σ} {b : β}
    (h : (Action.read source b).steps = [] ∨
      ∃ step ∈ (Action.read source b).steps, s.Performs e i step) :
    s.Performs e i .countRecords ∨ s.Performs e i .scan := by
  rcases h with hnil | ⟨step, hstep, hperforms⟩
  · simp [Action.steps] at hnil
  · simp only [Action.steps, List.mem_cons, List.not_mem_nil, or_false] at hstep
    rcases hstep with rfl | rfl
    · exact .inl hperforms
    · exact .inr hperforms

/-- What the ledger sees of an event. -/
inductive LedgerStep (sys : System ι σ β) (initial : Text → Option Text) (s : State ι σ β)
    (e : Event ι σ) (t : State ι σ β) : Prop
  /-- The source changes. -/
  | moved {next : σ} (hevent : e = .source next)
      (hmoves : sys.moves (reportedIn s.log) s.source next = true) (hsource : t.source = next)
      (hlog : t.log = s.log)
  /-- A run does something that the ledger does not see. -/
  | silent {i : ι} (hactor : e.actor = some i) (hsource : t.source = s.source)
      (hlog : t.log = s.log)
  /-- A run does an allowed action. -/
  | acted {i : ι} {a : Action σ β} (hactor : e.actor = some i) (hsource : t.source = s.source)
      (hlog : t.log = (i, a) :: s.log) (hallowed : sys.Allowed initial s.source s.log i a)
      (hperforms : a.steps = [] ∨ ∃ step ∈ a.steps, s.Performs e i step)

/-- The start agrees with the empty log. -/
theorem simulates_start (sys : System ι σ β) (source : σ) (store : Text → Option Text) :
    Simulates sys store (State.start sys source store) where
  store_eq := rfl
  tracks i := {
    suffix := List.suffix_rfl
    init_open := by simp [State.start, Finished]
    init_finished := by simp [State.start]
    from_logged := by simp [State.start]
    to_logged := by simp [State.start]
    to_pending := by simp [State.start]
    to_newest := by simp [State.start]
    push_last := by simp [State.start]
    pushes := by simp [State.start, Source.steps]
    xcom_logged := by simp [State.start]
    xcom_kept := by simp [State.start]
    window_logged := by simp [State.start]
    batch_logged := by simp [State.start]
    lands := by simp [State.start]
    spark_finished := by simp [State.start]
    pulled_logged := by simp [State.start]
    publishes := by simp [State.start] }

/-- Agreement is kept when one run changes and the log records its action. -/
theorem Simulates.update {sys : System ι σ β} {initial : Text → Option Text} {s t : State ι σ β}
    (hs : Simulates sys initial s) {i : ι} {run : Run β} {a : Option (Action σ β)}
    (hruns : t.runs = Function.update s.runs i run) (hlog : t.log = extendLog s.log i a)
    (hstore : t.store = sys.stored initial t.log) (hrun : Tracks sys t.log i run) :
    Simulates sys initial t where
  store_eq := hstore
  tracks j := by
    rw [hruns]
    by_cases hj : j = i
    · subst hj
      rw [Function.update_self]
      exact hrun
    · rw [Function.update_of_ne hj, hlog]
      cases a with
      | none => exact hs.tracks j
      | some a => exact (hs.tracks j).frame (Ne.symm hj) a

/-- The failure of an attempt agrees with the log. -/
theorem Simulates.fail {sys : System ι σ β} {initial : Text → Option Text} {s : State ι σ β}
    (hs : Simulates sys initial s) {e : Event ι σ} {i : ι} (hactor : e.actor = some i)
    (error : Text) (metricUp : Bool) :
    Simulates sys initial (sys.fail s i error metricUp) ∧
      LedgerStep sys initial s e (sys.fail s i error metricUp) := by
  have hrun : Tracks sys s.log i { s.runs i with failed := true } := { hs.tracks i with }
  unfold System.fail
  dsimp only
  split
  · exact ⟨hs.update (a := some _) rfl rfl hs.store_eq (hrun.emit rfl rfl rfl (.inr rfl) (by simp)),
      .acted hactor rfl rfl .reportedFailure (.inl rfl)⟩
  · exact ⟨hs.update (a := none) rfl rfl hs.store_eq hrun, .silent hactor rfl rfl⟩

/-- A performed step agrees with the log. -/
theorem Simulates.perform {sys : System ι σ β} {initial : Text → Option Text} {s : State ι σ β}
    (hs : Simulates sys initial s) {i : ι} {outside : Outside} {step : Step} {rest : List Step}
    {effect : Effect σ β} (hfailed : (s.runs i).failed = false)
    (htodo : (s.runs i).todo = step :: rest)
    (heffect : step.effect (sys.dag i) (sys.info i) outside s.source
      (s.store (sys.dag i).dagId) (s.runs i) = .ok effect) :
    let t := ((s.setRun i { effect.run with todo := rest }).upsert (sys.dag i).dagId
      effect.upsert).emit i effect.emitted
    Simulates sys initial t ∧ LedgerStep sys initial s (.perform i outside) t := by
  rw [hs.store_eq] at heffect
  have hjust : Justified sys initial s.source s.log i step rest effect :=
    (hs.tracks i).justified hfailed htodo heffect
  have hstore : effect.upsert.elim s.store
      (fun text => Function.update s.store (sys.dag i).dagId (some text)) =
      sys.stored initial (extendLog s.log i effect.emitted) := by
    rw [hjust.upserted, hs.store_eq]
    cases effect.emitted with
    | none => rfl
    | some a => cases a <;> rfl
  refine ⟨hs.update rfl rfl hstore hjust.tracked, ?_⟩
  cases hemitted : effect.emitted with
  | none => exact .silent rfl rfl rfl
  | some a =>
    refine .acted rfl rfl rfl (hjust.allowed a hemitted) ?_
    exact (hjust.performed a hemitted).imp_right fun hmem =>
      ⟨step, hmem, outside, rest, rfl, hfailed, htodo⟩

/-- **Every event refines the ledger.** -/
theorem System.step_refines {sys : System ι σ β} {initial : Text → Option Text} {s t : State ι σ β}
    {e : Event ι σ} (hs : Simulates sys initial s) (h : sys.step s e = some t) :
    Simulates sys initial t ∧ LedgerStep sys initial s e t := by
  cases System.transition_of_step h with
  | source hmoves => exact ⟨⟨hs.store_eq, hs.tracks⟩, .moved rfl hmoves rfl rfl⟩
  | performed hfailed htodo heffect => exact hs.perform hfailed htodo heffect
  | failed hactor => exact hs.fail hactor _ _
  | @retried i =>
    exact ⟨hs.update (a := none) rfl rfl hs.store_eq (hs.tracks i).restart, .silent rfl rfl rfl⟩
  | @advanced i htodo htask =>
    obtain ⟨htracks, hallowed⟩ := (hs.tracks i).advance htodo htask
    exact ⟨hs.update (a := some _) rfl rfl hs.store_eq htracks,
      .acted rfl rfl rfl hallowed (.inl rfl)⟩

/-! ### Invariants of the ledger -/

section Invariants

variable {sys : System ι σ β} {source : σ} {store : Text → Option Text} {S : State ι σ β}
  {es : List (Event ι σ)}

/-- Every reachable state agrees with its log. -/
theorem System.simulates_of_exec (h : exec sys.step (State.start sys source store) es = some S) :
    Simulates sys store S :=
  exec_invariant (fun hs hstep => (sys.step_refines hs hstep).1)
    (simulates_start sys source store) h

/-- What the changes of the source and the allowed actions preserve, as long as a condition
on the events is met, still holds in a state that is reached later. -/
theorem System.ledger_invariant_from (inv : σ → List (ι × Action σ β) → Prop)
    {cond : State ι σ β → Event ι σ → Prop} {s₀ : State ι σ β} (hs₀ : Simulates sys store s₀)
    (hstart : inv s₀.source s₀.log)
    (hmove : ∀ {src log next}, inv src log → sys.moves (reportedIn log) src next = true →
      inv next log)
    (hact : ∀ {s : State ι σ β} {e i a}, inv s.source s.log → cond s e →
      sys.Allowed store s.source s.log i a →
      (a.steps = [] ∨ ∃ step ∈ a.steps, s.Performs e i step) → inv s.source ((i, a) :: s.log))
    (hcond : Along sys.step cond s₀ es) (h : exec sys.step s₀ es = some S) :
    Simulates sys store S ∧ inv S.source S.log := by
  have hstep {s e t} (hs : Simulates sys store s ∧ inv s.source s.log) (hc : cond s e)
      (hst : sys.step s e = some t) : Simulates sys store t ∧ inv t.source t.log := by
    obtain ⟨ht, hledger⟩ := sys.step_refines hs.1 hst
    refine ⟨ht, ?_⟩
    cases hledger with
    | moved hevent hmoves hsource hlog =>
      rw [hlog, hsource]
      exact hmove hs.2 hmoves
    | silent hactor hsource hlog =>
      rw [hlog, hsource]
      exact hs.2
    | acted hactor hsource hlog hallowed hperforms =>
      rw [hlog, hsource]
      exact hact hs.2 hc hallowed hperforms
  exact exec_invariant_along hstep ⟨hs₀, hstart⟩ hcond h

/-- What the changes of the source and the allowed actions preserve, as long as a condition
on the events is met, holds in the state that is reached. -/
theorem System.ledger_invariant_along (inv : σ → List (ι × Action σ β) → Prop)
    {cond : State ι σ β → Event ι σ → Prop} (hstart : inv source [])
    (hmove : ∀ {src log next}, inv src log → sys.moves (reportedIn log) src next = true →
      inv next log)
    (hact : ∀ {s : State ι σ β} {e i a}, inv s.source s.log → cond s e →
      sys.Allowed store s.source s.log i a →
      (a.steps = [] ∨ ∃ step ∈ a.steps, s.Performs e i step) → inv s.source ((i, a) :: s.log))
    (hcond : Along sys.step cond (State.start sys source store) es)
    (h : exec sys.step (State.start sys source store) es = some S) : inv S.source S.log :=
  (sys.ledger_invariant_from inv (simulates_start sys source store) hstart hmove hact hcond h).2

/-- What the changes of the source and the allowed actions preserve holds in every
reachable state. -/
theorem System.ledger_invariant (inv : σ → List (ι × Action σ β) → Prop) (hstart : inv source [])
    (hmove : ∀ {src log next}, inv src log → sys.moves (reportedIn log) src next = true →
      inv next log)
    (hact : ∀ {src log i a}, inv src log → sys.Allowed store src log i a →
      inv src ((i, a) :: log))
    (h : exec sys.step (State.start sys source store) es = some S) : inv S.source S.log := by
  have hcond (s : State ι σ β) : Along sys.step (fun _ _ => True) s es := along_of_forall (by simp)
  exact sys.ledger_invariant_along inv hstart hmove (fun hinv _ hallowed _ => hact hinv hallowed)
    (hcond _) h

section Monitor

variable {Monitor : Type} {watch : Monitor → Event ι σ → Option Monitor}
  (inv : σ → List (ι × Action σ β) → Monitor → Prop)

/-- What the changes of the source, the allowed actions and the turns of a monitor preserve is
preserved by every event. -/
theorem System.ledger_step₂
    (hmove : ∀ {src log m next n}, inv src log m → sys.moves (reportedIn log) src next = true →
      watch m (.source next) = some n → inv next log n)
    (hturn : ∀ {src log m n e i}, inv src log m → Event.actor e = some i → watch m e = some n →
      inv src log n)
    (hact : ∀ {src log m n e i a}, inv src log n → Event.actor e = some i → watch m e = some n →
      sys.Allowed store src log i a → inv src ((i, a) :: log) n)
    {s : State ι σ β} {m : Monitor} {e : Event ι σ} {t : State ι σ β} {n : Monitor}
    (hs : Simulates sys store s ∧ inv s.source s.log m) (h : sys.step s e = some t)
    (hw : watch m e = some n) : Simulates sys store t ∧ inv t.source t.log n := by
  obtain ⟨ht, hledger⟩ := sys.step_refines hs.1 h
  refine ⟨ht, ?_⟩
  cases hledger with
  | moved hevent hmoves hsource hlog =>
    rw [hlog, hsource]
    exact hmove hs.2 hmoves (hevent ▸ hw)
  | silent hactor hsource hlog =>
    rw [hlog, hsource]
    exact hturn hs.2 hactor hw
  | acted hactor hsource hlog hallowed hperforms =>
    rw [hlog, hsource]
    exact hact (hturn hs.2 hactor hw) hactor hw hallowed

/-- What the changes of the source, the allowed actions and the turns of a monitor preserve
holds of every reachable state and the monitor. -/
theorem System.ledger_invariant₂ {m n : Monitor} (hstart : inv source [] m)
    (hmove : ∀ {src log m next n}, inv src log m → sys.moves (reportedIn log) src next = true →
      watch m (.source next) = some n → inv next log n)
    (hturn : ∀ {src log m n e i}, inv src log m → Event.actor e = some i → watch m e = some n →
      inv src log n)
    (hact : ∀ {src log m n e i a}, inv src log n → Event.actor e = some i → watch m e = some n →
      sys.Allowed store src log i a → inv src ((i, a) :: log) n)
    (h : exec sys.step (State.start sys source store) es = some S)
    (hwatch : exec watch m es = some n) : inv S.source S.log n := by
  have hs : Simulates sys store (State.start sys source store) ∧
      inv (State.start sys source store).source (State.start sys source store).log m :=
    ⟨simulates_start sys source store, hstart⟩
  have hS := @exec_invariant₂ _ _ _ sys.step watch
    (fun s m => Simulates sys store s ∧ inv s.source s.log m)
    (@System.ledger_step₂ _ _ _ _ sys store _ watch inv hmove hturn hact) _ _ _ _ es hs h hwatch
  exact hS.2

/-- A condition that follows from what the changes of the source, the allowed actions and the
turns of a monitor preserve is met along every execution that the monitor accepts. -/
theorem System.along_of_watch {cond : State ι σ β → Event ι σ → Prop} {m n : Monitor}
    (hstart : inv source [] m)
    (hmove : ∀ {src log m next n}, inv src log m → sys.moves (reportedIn log) src next = true →
      watch m (.source next) = some n → inv next log n)
    (hturn : ∀ {src log m n e i}, inv src log m → Event.actor e = some i → watch m e = some n →
      inv src log n)
    (hact : ∀ {src log m n e i a}, inv src log n → Event.actor e = some i → watch m e = some n →
      sys.Allowed store src log i a → inv src ((i, a) :: log) n)
    (hcond : ∀ {s : State ι σ β} {m n e}, Simulates sys store s → inv s.source s.log m →
      watch m e = some n → cond s e)
    (hwatch : exec watch m es = some n) :
    Along sys.step cond (State.start sys source store) es := by
  have hs : Simulates sys store (State.start sys source store) ∧
      inv (State.start sys source store).source (State.start sys source store).log m :=
    ⟨simulates_start sys source store, hstart⟩
  exact @Library.along_of_watch _ _ _ sys.step watch
    (fun s m => Simulates sys store s ∧ inv s.source s.log m) cond
    (@System.ledger_step₂ _ _ _ _ sys store _ watch inv hmove hturn hact)
    (fun hinv hw => hcond hinv.1 hinv.2 hw) _ _ _ es hs hwatch

end Monitor

end Invariants

end BatchIngestion
