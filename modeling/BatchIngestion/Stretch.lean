import BatchIngestion.Library.Execution
import BatchIngestion.Progress

/-!
# Steps in a row

A run that performs several steps while nothing else happens moves the system as one
big step would. What such a stretch does is computed from the run and the row of its
DAG alone.
-/

namespace BatchIngestion

open Python Library

variable {ι σ β : Type}

/-- What a run has done in a stretch of steps. -/
structure Stretch (σ β : Type) where
  /-- The run after the steps. -/
  run : Run β
  /-- What the steps did to the outside world, newest first. -/
  emitted : List (Action σ β)
  /-- The row of the DAG after the steps. -/
  row : Option Text

/-- The next steps of a run, with a row. -/
def Dag.performs (dag : Dag σ β) (info : RunInfo) (outside : Outside) (source : σ) :
    ℕ → Run β → Option Text → Except PyExc (Stretch σ β)
  | 0, run, row => .ok { run, emitted := [], row }
  | n + 1, run, row =>
    match run.failed, run.todo with
    | false, step :: rest => do
      let effect ← step.effect dag info outside source row run
      let later ← performs dag info outside source n { effect.run with todo := rest }
        (effect.upsert.or row)
      return { later with emitted := later.emitted ++ effect.emitted.toList }
    | _, _ => .error (.external "no step to perform")

/-- Two stretches in a row. -/
theorem Dag.performs_add {dag : Dag σ β} {info : RunInfo} {outside : Outside} {source : σ}
    {n m : ℕ} {run : Run β} {row : Option Text} {first second : Stretch σ β}
    (h : dag.performs info outside source n run row = .ok first)
    (h' : dag.performs info outside source m first.run first.row = .ok second) :
    dag.performs info outside source (n + m) run row =
      .ok { second with emitted := second.emitted ++ first.emitted } := by
  induction n generalizing run row first with
  | zero =>
    obtain rfl := Except.ok.inj h
    simpa using h'
  | succ n ih =>
    rw [Nat.succ_add, Dag.performs]
    rw [Dag.performs] at h
    split at h
    · rename_i step rest hfailed htodo
      obtain ⟨effect, heffect, h⟩ := bind_eq_ok_iff.mp h
      obtain ⟨later, hlater, h⟩ := bind_eq_ok_iff.mp h
      obtain rfl := Except.ok.inj h
      simp only [heffect, ok_bind, ih hlater h', pure_eq_ok, List.append_assoc]
    · cases h

section Step

variable [DecidableEq ι]

/-- The state after a stretch of a run. -/
def State.stretched (s : State ι σ β) (dagId : Text) (i : ι) (stretch : Stretch σ β) :
    State ι σ β where
  source := s.source
  store := Function.update s.store dagId stretch.row
  runs := Function.update s.runs i stretch.run
  log := stretch.emitted.map (fun a => (i, a)) ++ s.log

variable (sys : System ι σ β) {s : State ι σ β} {i : ι} {outside : Outside}

/-- One step is a stretch. -/
theorem State.stretched_one (dagId : Text) (effect : Effect σ β) :
    ((s.setRun i effect.run).upsert dagId effect.upsert).emit i effect.emitted =
      s.stretched dagId i
        { run := effect.run, emitted := effect.emitted.toList
          row := effect.upsert.or (s.store dagId) } := by
  obtain ⟨run, emitted, upsert⟩ := effect
  cases emitted <;> cases upsert <;> simp [State.setRun, State.upsert, State.emit, stretched]

/-- Two stretches are one. -/
theorem State.stretched_stretched (dagId : Text) (first second : Stretch σ β) :
    (s.stretched dagId i first).stretched dagId i second =
      s.stretched dagId i { second with emitted := second.emitted ++ first.emitted } := by
  simp [stretched]

/-- **A stretch is an execution** of its steps. -/
theorem System.exec_performs {n : ℕ} {stretch : Stretch σ β}
    (h : (sys.dag i).performs (sys.info i) outside s.source n (s.runs i)
      (s.store (sys.dag i).dagId) = .ok stretch) :
    exec sys.step s (List.replicate n (.perform i outside)) =
      some (s.stretched (sys.dag i).dagId i stretch) := by
  induction n generalizing s stretch with
  | zero =>
    obtain rfl := Except.ok.inj h
    simp [State.stretched]
  | succ n ih =>
    rw [Dag.performs] at h
    split at h
    · rename_i step rest hfailed htodo
      obtain ⟨effect, heffect, h⟩ := bind_eq_ok_iff.mp h
      obtain ⟨later, hlater, h⟩ := bind_eq_ok_iff.mp h
      obtain rfl := Except.ok.inj h
      have hstep : sys.step s (.perform i outside) =
          some (sys.performStep s i outside step rest) := by
        simp only [System.step, hfailed, htodo]
      rw [System.performStep_of_ok heffect] at hstep
      refine exec_cons_eq_some.mpr ⟨_, hstep, ?_⟩
      have hone := s.stretched_one (i := i) (sys.dag i).dagId
        { effect with run := { effect.run with todo := rest } }
      rw [hone]
      rw [ih (by simpa [State.stretched] using hlater), State.stretched_stretched]
    · cases h

/-- A stretch that ends its task starts the next one. -/
theorem System.exec_task {n : ℕ} {stretch : Stretch σ β}
    (h : (sys.dag i).performs (sys.info i) outside s.source n (s.runs i)
      (s.store (sys.dag i).dagId) = .ok stretch)
    (hfailed : stretch.run.failed = false) (htodo : stretch.run.todo = [])
    (htask : stretch.run.task ≠ .done) :
    exec sys.step s (List.replicate n (.perform i outside) ++ [.next i]) =
      some (s.stretched (sys.dag i).dagId i
        { run := stretch.run.advance (sys.dag i), row := stretch.row
          emitted := .finished stretch.run.task :: stretch.emitted }) := by
  refine exec_append_eq_some.mpr ⟨_, sys.exec_performs h, exec_cons_eq_some.mpr ⟨_, ?_, rfl⟩⟩
  have hrun : (s.stretched (sys.dag i).dagId i stretch).runs i = stretch.run :=
    Function.update_self ..
  simp only [System.step, hrun]
  rw [if_pos ⟨hfailed, htodo, htask⟩]
  simp [State.setRun, State.emit, State.stretched]

/-- The inline metric of a failed attempt. -/
def System.failureMetric (sys : System ι σ β) (i : ι) (task : Task) (error : Text)
    (metricUp : Bool) : List (Action σ β) :=
  if task = .sparkRun ∧ metricUp then
    [.published (failurePayload (sys.dag i).dagId (sys.info i).runId error)]
  else []

/-- A stretch after which the next step raises. -/
theorem System.exec_failure {n : ℕ} {stretch : Stretch σ β}
    (h : (sys.dag i).performs (sys.info i) outside s.source n (s.runs i)
      (s.store (sys.dag i).dagId) = .ok stretch)
    (hfailed : stretch.run.failed = false) (htodo : stretch.run.todo ≠ []) (error : Text)
    (metricUp : Bool) :
    exec sys.step s (List.replicate n (.perform i outside) ++ [.raise i error metricUp]) =
      some (s.stretched (sys.dag i).dagId i
        { run := { stretch.run with failed := true }, row := stretch.row
          emitted := sys.failureMetric i stretch.run.task error metricUp ++ stretch.emitted }) := by
  refine exec_append_eq_some.mpr ⟨_, sys.exec_performs h, exec_cons_eq_some.mpr ⟨_, ?_, rfl⟩⟩
  have hrun : (s.stretched (sys.dag i).dagId i stretch).runs i = stretch.run :=
    Function.update_self ..
  obtain ⟨step, rest, hcons⟩ := List.exists_cons_of_ne_nil htodo
  simp only [System.step, hrun, hfailed, hcons, System.fail]
  by_cases hmetric : stretch.run.task = .sparkRun ∧ metricUp
  · simp [State.setRun, State.emit, State.stretched, System.failureMetric, hmetric]
  · simp [State.setRun, State.emit, State.stretched, System.failureMetric, hmetric]

end Step

end BatchIngestion
