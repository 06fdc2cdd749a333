import Mathlib.Data.Option.Basic
import Mathlib.Data.List.Basic

/-!
# Executions of a partial step function

A system is given by a partial function from a state and an event to the next
state. An execution feeds a list of events to it and stops at the first event
that is not enabled. The induction over an execution is packaged here once, in
the plain form, under a condition on the steps taken, for two systems that
observe the same events, and for a system that simulates another one.
-/

namespace BatchIngestion.Library

variable {State Event Monitor : Type*}

/-- Feed a list of events to a partial step function. -/
def exec (step : State → Event → Option State) : State → List Event → Option State
  | s, [] => some s
  | s, e :: es => (step s e).bind fun t => exec step t es

/-- The empty execution stays where it is. -/
@[simp] theorem exec_nil (step : State → Event → Option State) (s : State) :
    exec step s [] = some s := rfl

/-- A nonempty execution is one step and an execution from the state it reaches. -/
theorem exec_cons_eq_some {step : State → Event → Option State} {s t : State} {e : Event}
    {es : List Event} :
    exec step s (e :: es) = some t ↔ ∃ u, step s e = some u ∧ exec step u es = some t := by
  simp [exec, Option.bind_eq_some_iff]

/-- An execution of a concatenated event list goes through the state between its parts. -/
theorem exec_append_eq_some {step : State → Event → Option State} {s t : State}
    {es fs : List Event} :
    exec step s (es ++ fs) = some t ↔ ∃ u, exec step s es = some u ∧ exec step u fs = some t := by
  induction es generalizing s with
  | nil => simp
  | cons e es ih =>
    rw [List.cons_append, exec_cons_eq_some]
    constructor
    · rintro ⟨v, hv, h⟩
      obtain ⟨u, hu, ht⟩ := ih.mp h
      exact ⟨u, exec_cons_eq_some.mpr ⟨v, hv, hu⟩, ht⟩
    · rintro ⟨u, hu, ht⟩
      obtain ⟨v, hv, hu⟩ := exec_cons_eq_some.mp hu
      exact ⟨v, hv, ih.mpr ⟨u, hu, ht⟩⟩

/-- Every step of an execution meets a condition on the state before it and the event. -/
def Along (step : State → Event → Option State) (cond : State → Event → Prop) :
    State → List Event → Prop
  | _, [] => True
  | s, e :: es => cond s e ∧ ∀ t, step s e = some t → Along step cond t es

/-- A condition that every step meets is met along every execution. -/
theorem along_of_forall {step : State → Event → Option State} {cond : State → Event → Prop}
    (hcond : ∀ s e, cond s e) {s : State} {es : List Event} : Along step cond s es := by
  induction es generalizing s with
  | nil => trivial
  | cons e es ih => exact ⟨hcond s e, fun t _ => ih⟩

/-- A condition on events that all events of a list meet is met along every execution of it. -/
theorem along_of_mem {step : State → Event → Option State} {cond : Event → Prop} {s : State}
    {es : List Event} (h : ∀ e ∈ es, cond e) : Along step (fun _ => cond) s es := by
  induction es generalizing s with
  | nil => trivial
  | cons e es ih =>
    exact ⟨h e List.mem_cons_self, fun t _ => ih fun e he => h e (List.mem_cons_of_mem _ he)⟩

/-- Check a condition at every step of an execution. -/
def checkAlong (step : State → Event → Option State) (check : State → Event → Bool) :
    State → List Event → Bool
  | _, [] => true
  | s, e :: es => check s e && (step s e).all fun t => checkAlong step check t es

/-- A checked condition is met. -/
theorem along_of_checkAlong {step : State → Event → Option State} {check : State → Event → Bool}
    {cond : State → Event → Prop} (hcheck : ∀ s e, check s e = true → cond s e) {s : State}
    {es : List Event} (h : checkAlong step check s es = true) : Along step cond s es := by
  induction es generalizing s with
  | nil => trivial
  | cons e es ih =>
    simp only [checkAlong, Bool.and_eq_true, Option.all_eq_true] at h
    exact ⟨hcheck s e h.1, fun t ht => ih (h.2 t ht)⟩

/-- A condition that implies another one is met along fewer executions. -/
theorem Along.mono {step : State → Event → Option State} {cond cond' : State → Event → Prop}
    {s : State} {es : List Event} (h : Along step cond s es)
    (himp : ∀ s e, cond s e → cond' s e) : Along step cond' s es := by
  induction es generalizing s with
  | nil => trivial
  | cons e es ih => exact ⟨himp s e h.1, fun t ht => ih (h.2 t ht)⟩

/-- A condition met along a concatenated event list is met along its second part. -/
theorem Along.of_append {step : State → Event → Option State} {cond : State → Event → Prop}
    {s t : State} {es fs : List Event} (h : Along step cond s (es ++ fs))
    (hexec : exec step s es = some t) : Along step cond t fs := by
  induction es generalizing s with
  | nil =>
    obtain rfl : s = t := by simpa using hexec
    exact h
  | cons e es ih =>
    obtain ⟨u, hu, ht⟩ := exec_cons_eq_some.mp hexec
    exact ih (h.2 u hu) ht

/-- A condition met along a concatenated event list is met along its first part. -/
theorem Along.of_append_left {step : State → Event → Option State} {cond : State → Event → Prop}
    {s : State} {es fs : List Event} (h : Along step cond s (es ++ fs)) : Along step cond s es := by
  induction es generalizing s with
  | nil => trivial
  | cons e es ih => exact ⟨h.1, fun t ht => ih (h.2 t ht)⟩

/-- What every step that meets the condition preserves holds at the end of every
execution all of whose steps meet it. -/
theorem exec_invariant_along {step : State → Event → Option State} {inv : State → Prop}
    {cond : State → Event → Prop}
    (hstep : ∀ {s e t}, inv s → cond s e → step s e = some t → inv t)
    {s t : State} {es : List Event} (hs : inv s) (hcond : Along step cond s es)
    (h : exec step s es = some t) : inv t := by
  induction es generalizing s with
  | nil =>
    obtain rfl : s = t := by simpa using h
    exact hs
  | cons e es ih =>
    obtain ⟨u, hu, ht⟩ := exec_cons_eq_some.mp h
    exact ih (hstep hs hcond.1 hu) (hcond.2 u hu) ht

/-- What every step preserves holds at the end of every execution. -/
theorem exec_invariant {step : State → Event → Option State} {inv : State → Prop}
    (hstep : ∀ {s e t}, inv s → step s e = some t → inv t)
    {s t : State} {es : List Event} (hs : inv s) (h : exec step s es = some t) : inv t :=
  exec_invariant_along (fun hinv _ ht => hstep hinv ht) hs
    (along_of_forall fun _ _ => True.intro) h

/-- What every step preserves holds before every step of an execution. -/
theorem along_of_invariant {step : State → Event → Option State} {inv : State → Prop}
    (hstep : ∀ {s e t}, inv s → step s e = some t → inv t) {s : State} {es : List Event}
    (hs : inv s) : Along step (fun s _ => inv s) s es := by
  induction es generalizing s with
  | nil => trivial
  | cons e es ih => exact ⟨hs, fun t ht => ih (hstep hs ht)⟩

/-- Two systems fed with the same events: what their joint steps preserve holds of
the pair of states that the two executions reach. -/
theorem exec_invariant₂ {step : State → Event → Option State}
    {watch : Monitor → Event → Option Monitor} {inv : State → Monitor → Prop}
    (hstep : ∀ {s m e t n}, inv s m → step s e = some t → watch m e = some n → inv t n)
    {s t : State} {m n : Monitor} {es : List Event} (hs : inv s m)
    (h : exec step s es = some t) (hw : exec watch m es = some n) : inv t n := by
  induction es generalizing s m with
  | nil =>
    obtain rfl : s = t := by simpa using h
    obtain rfl : m = n := by simpa using hw
    exact hs
  | cons e es ih =>
    obtain ⟨u, hu, ht⟩ := exec_cons_eq_some.mp h
    obtain ⟨v, hv, hn⟩ := exec_cons_eq_some.mp hw
    exact ih (hstep hs hu hv) ht hn

/-- A condition that follows from what the joint steps of two systems preserve is met along
every execution that both systems take. -/
theorem along_of_watch {step : State → Event → Option State}
    {watch : Monitor → Event → Option Monitor} {inv : State → Monitor → Prop}
    {cond : State → Event → Prop}
    (hstep : ∀ {s m e t n}, inv s m → step s e = some t → watch m e = some n → inv t n)
    (hcond : ∀ {s m e n}, inv s m → watch m e = some n → cond s e)
    {s : State} {m n : Monitor} {es : List Event} (hs : inv s m)
    (hw : exec watch m es = some n) : Along step cond s es := by
  induction es generalizing s m with
  | nil => trivial
  | cons e es ih =>
    obtain ⟨v, hv, hn⟩ := exec_cons_eq_some.mp hw
    exact ⟨hcond hs hv, fun t ht => ih (hstep hs ht hv) hn⟩

/-- A system that can follow every step of another one that meets a condition follows all
executions whose steps meet it. -/
theorem exec_simulation_along {Follower : Type*} {step : State → Event → Option State}
    {follow : Follower → Event → Option Follower} {rel : Follower → State → Prop}
    {cond : State → Event → Prop}
    (hstep : ∀ {f s e t}, rel f s → cond s e → step s e = some t →
      ∃ g, follow f e = some g ∧ rel g t)
    {f : Follower} {s t : State} {es : List Event} (hrel : rel f s)
    (hcond : Along step cond s es) (h : exec step s es = some t) :
    ∃ g, exec follow f es = some g ∧ rel g t := by
  induction es generalizing f s with
  | nil =>
    obtain rfl : s = t := by simpa using h
    exact ⟨f, rfl, hrel⟩
  | cons e es ih =>
    obtain ⟨u, hu, ht⟩ := exec_cons_eq_some.mp h
    obtain ⟨v, hv, hrel'⟩ := hstep hrel hcond.1 hu
    obtain ⟨g, hg, hrel''⟩ := ih hrel' (hcond.2 u hu) ht
    exact ⟨g, exec_cons_eq_some.mpr ⟨v, hv, hg⟩, hrel''⟩

/-- A system that can follow every step of another one by an execution, of events of its own,
follows all executions. -/
theorem exec_refinement_along {Follower Reaction : Type*} {step : State → Event → Option State}
    {follow : Follower → Reaction → Option Follower} {rel : Follower → State → Prop}
    {cond : State → Event → Prop}
    (hstep : ∀ {f s e t}, rel f s → cond s e → step s e = some t →
      ∃ rs g, exec follow f rs = some g ∧ rel g t)
    {f : Follower} {s t : State} {es : List Event} (hrel : rel f s)
    (hcond : Along step cond s es) (h : exec step s es = some t) :
    ∃ rs g, exec follow f rs = some g ∧ rel g t := by
  induction es generalizing f s with
  | nil =>
    obtain rfl : s = t := by simpa using h
    exact ⟨[], f, rfl, hrel⟩
  | cons e es ih =>
    obtain ⟨u, hu, ht⟩ := exec_cons_eq_some.mp h
    obtain ⟨rs, v, hv, hrel'⟩ := hstep hrel hcond.1 hu
    obtain ⟨rs', g, hg, hrel''⟩ := ih hrel' (hcond.2 u hu) ht
    exact ⟨rs ++ rs', g, exec_append_eq_some.mpr ⟨v, hv, hg⟩, hrel''⟩

end BatchIngestion.Library
