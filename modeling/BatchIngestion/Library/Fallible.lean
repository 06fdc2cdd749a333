import Mathlib.Data.List.Basic

/-!
# Computations that may raise

A computation in `Except` succeeds exactly when each of its parts does, and a loop
over a list in `Option` when every round does. These equivalences take a composed
computation apart without unfolding the monad.
-/

namespace BatchIngestion.Library

variable {ε α β : Type}

/-- A sequence succeeds exactly when its first part and its rest do. -/
theorem bind_eq_ok_iff {x : Except ε α} {f : α → Except ε β} {b : β} :
    (x >>= f) = .ok b ↔ ∃ a, x = .ok a ∧ f a = .ok b := by
  cases x <;> simp [bind, Except.bind]

/-- A mapped computation succeeds exactly when the computation does. -/
theorem map_eq_ok_iff {x : Except ε α} {f : α → β} {b : β} :
    x.map f = .ok b ↔ ∃ a, x = .ok a ∧ f a = b := by
  cases x <;> simp [Except.map]

/-- A sequence after a success is its rest. -/
@[simp] theorem ok_bind (a : α) (f : α → Except ε β) :
    ((.ok a : Except ε α) >>= f) = f a := rfl

/-- A sequence after a failure is the failure. -/
@[simp] theorem error_bind (e : ε) (f : α → Except ε β) :
    ((.error e : Except ε α) >>= f) = .error e := rfl

/-- A computation that goes on with a success raises only what its first part raises. -/
theorem eq_error_of_bind_ok {x : Except ε α} {g : α → β} {e : ε}
    (h : (x >>= fun a => .ok (g a)) = .error e) : x = .error e := by
  cases x with
  | error => simpa using h
  | ok a => simp at h

/-- Returning a value is a success. -/
@[simp] theorem pure_eq_ok (a : α) : (pure a : Except ε α) = .ok a := rfl

section Loop

variable {f : α → Option β} {l : List α} {m : List β}

/-- A loop gives the results of its rounds. -/
theorem mapM_eq_some_iff : l.mapM f = some m ↔ l.map f = m.map some := by
  induction l generalizing m with
  | nil => cases m <;> simp
  | cons a l ih =>
    rw [List.mapM_cons, Option.bind_eq_bind, Option.bind_eq_some_iff, List.map_cons]
    constructor
    · rintro ⟨b, hb, hm⟩
      obtain ⟨m', hm', heq⟩ := Option.bind_eq_some_iff.mp hm
      obtain rfl := Option.some.inj heq
      rw [hb, ih.mp hm', List.map_cons]
    · intro h
      cases m with
      | nil => simp at h
      | cons b m =>
        obtain ⟨hb, hm⟩ := List.cons.inj h
        exact ⟨b, hb, by simp [ih.mpr hm]⟩

/-- Every result of a loop is that of a round. -/
theorem mem_of_mapM_eq_some (h : l.mapM f = some m) {b : β} : b ∈ m ↔ ∃ a ∈ l, f a = some b := by
  rw [← List.mem_map, mapM_eq_some_iff.mp h]
  simp

/-- A loop succeeds exactly when every round does. -/
theorem isSome_mapM_iff : (l.mapM f).isSome ↔ ∀ a ∈ l, (f a).isSome := by
  induction l with
  | nil => simp
  | cons a l ih =>
    rw [List.forall_mem_cons, ← ih, List.mapM_cons]
    cases f a <;> cases l.mapM f <;> simp

end Loop

end BatchIngestion.Library
