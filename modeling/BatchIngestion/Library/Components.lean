import BatchIngestion.Library.Execution

/-!
# Systems made of components

A component sees a part of the state of a system and takes part in some of its events.
When it takes the events that it takes part in by itself, and no other event changes what
it sees, its view of an execution is an execution of its own. When the components
together also decide which events are enabled, the executions of the system are exactly
the interleavings of executions of its components.
-/

namespace BatchIngestion.Library

variable {State Event Part Turn : Type*}

/-- A part of a system takes its own turns in the events of the system. -/
structure TakesPart (step : State → Event → Option State) (part : Part → Turn → Option Part)
    (view : State → Part) (turn : Event → Option Turn) : Prop where
  /-- The part can take its turn in every event, and arrives at its view of the next state. -/
  takes : ∀ {s e t u}, step s e = some t → turn e = some u → part (view s) u = some (view t)
  /-- An event without a turn of the part does not change what it sees. -/
  keeps : ∀ {s e t}, step s e = some t → turn e = none → view t = view s

/-- A part executes its turns in an execution of the system. -/
theorem TakesPart.exec {step : State → Event → Option State} {part : Part → Turn → Option Part}
    {view : State → Part} {turn : Event → Option Turn} (h : TakesPart step part view turn)
    {s t : State} {es : List Event} (hexec : exec step s es = some t) :
    exec part (view s) (es.filterMap turn) = some (view t) := by
  induction es generalizing s with
  | nil =>
    obtain rfl : s = t := by simpa using hexec
    rfl
  | cons e es ih =>
    obtain ⟨u, hu, ht⟩ := exec_cons_eq_some.mp hexec
    cases hturn : turn e with
    | none =>
      rw [List.filterMap_cons_none hturn, ← h.keeps hu hturn]
      exact ih ht
    | some v =>
      rw [List.filterMap_cons_some hturn]
      exact exec_cons_eq_some.mpr ⟨view u, h.takes hu hturn, ih ht⟩

section Family

variable {C : Type*} {Parts Turns : C → Type*}

/-- The components of a system: every one takes part in it, and an event is enabled as soon as
all the components that have a turn in it can take their turns. -/
structure Decomposes (step : State → Event → Option State)
    (part : ∀ c, Parts c → Turns c → Option (Parts c)) (view : ∀ c, State → Parts c)
    (turn : ∀ c, Event → Option (Turns c)) : Prop where
  /-- Every component takes part. -/
  takesPart : ∀ c, TakesPart step (part c) (view c) (turn c)
  /-- Nothing but the components prevents an event. -/
  enabled : ∀ {s e}, (∀ c u, turn c e = some u → (part c (view c s) u).isSome) →
    (step s e).isSome

variable {step : State → Event → Option State}
  {part : ∀ c, Parts c → Turns c → Option (Parts c)} {view : ∀ c, State → Parts c}
  {turn : ∀ c, Event → Option (Turns c)}

/-- **The executions of a system are the interleavings of the executions of its components.** -/
theorem Decomposes.exec_isSome_iff (h : Decomposes step part view turn) {s : State}
    {es : List Event} :
    (exec step s es).isSome ↔
      ∀ c, (exec (part c) (view c s) (es.filterMap (turn c))).isSome := by
  constructor
  · intro hexec c
    obtain ⟨t, ht⟩ := Option.isSome_iff_exists.mp hexec
    rw [(h.takesPart c).exec ht]
    rfl
  · intro hparts
    induction es generalizing s with
    | nil => rfl
    | cons e es ih =>
      -- the first turn of a component stands at the head of its own events
      have hfirst : (step s e).isSome := by
        refine h.enabled fun c u hu => ?_
        obtain ⟨p, hp⟩ := Option.isSome_iff_exists.mp (hparts c)
        rw [List.filterMap_cons_some hu] at hp
        obtain ⟨q, hq, -⟩ := exec_cons_eq_some.mp hp
        rw [hq]
        rfl
      obtain ⟨t, ht⟩ := Option.isSome_iff_exists.mp hfirst
      have hrest : ∀ c, (exec (part c) (view c t) (es.filterMap (turn c))).isSome := by
        intro c
        cases hturn : turn c e with
        | none =>
          rw [(h.takesPart c).keeps ht hturn, ← List.filterMap_cons_none hturn]
          exact hparts c
        | some u =>
          obtain ⟨p, hp⟩ := Option.isSome_iff_exists.mp (hparts c)
          rw [List.filterMap_cons_some hturn] at hp
          obtain ⟨q, hq, hp⟩ := exec_cons_eq_some.mp hp
          rw [(h.takesPart c).takes ht hturn] at hq
          obtain rfl := Option.some.inj hq
          rw [hp]
          rfl
      obtain ⟨r, hr⟩ := Option.isSome_iff_exists.mp (ih hrest)
      rw [Library.exec, ht, Option.bind_some, hr]
      rfl

end Family

end BatchIngestion.Library
