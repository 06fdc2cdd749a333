import Mathlib.Data.List.Basic

/-!
# Logs of actions

Several processes append their actions to one log, newest first. What a process
knows is often the newest of its actions of some kind: the value it fetched last,
or the batch it read last.
-/

namespace BatchIngestion.Library

variable {ι α γ : Type*} [DecidableEq ι]

/-- The newest action of a process that a selector picks, with what it picks of it. -/
def newest (select : α → Option γ) (log : List (ι × α)) (i : ι) : Option γ :=
  log.findSome? fun entry => if entry.1 = i then select entry.2 else none

/-- Nothing is picked from the empty log. -/
@[simp] theorem newest_nil (select : α → Option γ) (i : ι) :
    newest select ([] : List (ι × α)) i = none := rfl

/-- The newest entry counts when it belongs to the process and is picked. -/
theorem newest_cons (select : α → Option γ) (j : ι) (a : α) (log : List (ι × α)) (i : ι) :
    newest select ((j, a) :: log) i =
      if j = i then (select a).or (newest select log i) else newest select log i := by
  unfold newest
  by_cases hj : j = i
  · cases h : select a <;> simp [hj, h]
  · simp [hj]

/-- The entry of another process does not count. -/
theorem newest_cons_of_ne (select : α → Option γ) {i j : ι} (hij : j ≠ i) (a : α)
    (log : List (ι × α)) : newest select ((j, a) :: log) i = newest select log i := by
  rw [newest_cons, if_neg hij]

/-- An entry that is not picked does not count. -/
theorem newest_cons_of_none {select : α → Option γ} {a : α} (ha : select a = none) (i j : ι)
    (log : List (ι × α)) : newest select ((j, a) :: log) i = newest select log i := by
  rw [newest_cons, ha, Option.none_or, ite_self]

/-- What is picked stands in the log. -/
theorem exists_mem_of_newest {select : α → Option γ} {log : List (ι × α)} {i : ι} {c : γ}
    (h : newest select log i = some c) : ∃ a, (i, a) ∈ log ∧ select a = some c := by
  obtain ⟨⟨j, a⟩, hmem, hsel⟩ := List.exists_of_findSome?_eq_some h
  split at hsel
  · rename_i hj
    obtain rfl : j = i := hj
    exact ⟨a, hmem, hsel⟩
  · simp at hsel

end BatchIngestion.Library
