import Mathlib.Data.List.Basic
import Mathlib.Order.Lattice

/-!
# Windows that tile

Workers run one after the other. Each one that completes leaves behind where it has
stopped, and takes the half-open window from where the latest completed worker before it
has stopped. When no one stops before it has started, every value below the last stop
lies in the window of exactly one worker.
-/

namespace BatchIngestion.Library

variable {ι α : Type*} [LinearOrder α]

/-- Where the workers of a list, newest first, have stopped. A worker that has not completed
leaves the stop of the earlier ones. -/
def frontier (start : α) (stop : ι → Option α) : List ι → α
  | [] => start
  | i :: earlier => (stop i).getD (frontier start stop earlier)

/-- The value lies in the window of a completed worker. -/
def Takes (start : α) (stop : ι → Option α) (workers : List ι) (i : ι) (x : α) : Prop :=
  ∃ later earlier e, workers = later ++ i :: earlier ∧ stop i = some e ∧
    frontier start stop earlier ≤ x ∧ x < e

/-- No worker stops before it has started. -/
def Forward (start : α) (stop : ι → Option α) (workers : List ι) : Prop :=
  ∀ later i earlier e, workers = later ++ i :: earlier → stop i = some e →
    frontier start stop earlier ≤ e

variable {start x e : α} {stop : ι → Option α} {workers earlier : List ι} {i j : ι}

omit [LinearOrder α] in
/-- A completed worker is where the frontier is. -/
theorem frontier_cons_of_some (h : stop i = some e) : frontier start stop (i :: earlier) = e := by
  rw [frontier, h, Option.getD_some]

omit [LinearOrder α] in
/-- A worker that has not completed does not move the frontier. -/
theorem frontier_cons_of_none (h : stop i = none) :
    frontier start stop (i :: earlier) = frontier start stop earlier := by
  rw [frontier, h, Option.getD_none]

/-- The earlier workers go forward, too. -/
theorem Forward.of_cons (h : Forward start stop (i :: earlier)) : Forward start stop earlier :=
  fun later j older e heq => h (i :: later) j older e (by rw [heq, List.cons_append])

/-- No completed worker is ahead of the frontier. -/
theorem Forward.le_frontier (h : Forward start stop workers) (hj : j ∈ workers)
    (he : stop j = some e) : e ≤ frontier start stop workers := by
  induction workers with
  | nil => exact absurd hj List.not_mem_nil
  | cons i earlier ih =>
    rcases List.mem_cons.mp hj with rfl | hj
    · exact (frontier_cons_of_some he).ge
    · have hle := ih h.of_cons hj
      cases hi : stop i with
      | none => exact hle.trans (frontier_cons_of_none hi).ge
      | some e' => exact (hle.trans (h [] i earlier e' rfl hi)).trans (frontier_cons_of_some hi).ge

/-- A worker takes a value when it did so among the earlier workers. -/
theorem Takes.cons (h : Takes start stop earlier j x) (i : ι) :
    Takes start stop (i :: earlier) j x := by
  obtain ⟨later, older, e, rfl, he, hle, hlt⟩ := h
  exact ⟨i :: later, older, e, rfl, he, hle, hlt⟩

/-- **Every value below the frontier is taken.** -/
theorem exists_takes (hstart : start ≤ x) (hlt : x < frontier start stop workers) :
    ∃ i, Takes start stop workers i x := by
  induction workers with
  | nil => exact absurd hlt (not_lt.mpr hstart)
  | cons i earlier ih =>
    rcases lt_or_ge x (frontier start stop earlier) with hx | hx
    · obtain ⟨j, hj⟩ := ih hx
      exact ⟨j, hj.cons i⟩
    · cases hi : stop i with
      | none => exact absurd (frontier_cons_of_none hi ▸ hlt) (not_lt.mpr hx)
      | some e => exact ⟨i, [], earlier, e, rfl, hi, hx, frontier_cons_of_some hi ▸ hlt⟩

/-- What a worker takes lies behind no completed worker before it. -/
theorem Forward.not_mem_earlier (h : Forward start stop earlier)
    (hx : frontier start stop earlier ≤ x) (hj : stop j = some e) (hlt : x < e) : j ∉ earlier :=
  fun hmem => absurd hlt (not_lt.mpr ((h.le_frontier hmem hj).trans hx))

/-- The workers before one of the workers go forward. -/
theorem Forward.of_append {later : List ι} (h : Forward start stop (later ++ i :: earlier)) :
    Forward start stop earlier :=
  fun later' j older e heq => h (later ++ i :: later') j older e (by simp [heq])

/-- The earliest worker begins at the start, and no one falls behind it. -/
theorem Forward.start_le (h : Forward start stop workers) :
    start ≤ frontier start stop workers := by
  induction workers with
  | nil => exact le_rfl
  | cons i earlier ih =>
    have hle := ih h.of_cons
    cases hi : stop i with
    | none => exact hle.trans (frontier_cons_of_none hi).ge
    | some e => exact (hle.trans (h [] i earlier e rfl hi)).trans (frontier_cons_of_some hi).ge

/-- Only values between the start and the frontier are taken. -/
theorem Forward.bounds_of_takes (h : Forward start stop workers)
    (hi : Takes start stop workers i x) : start ≤ x ∧ x < frontier start stop workers := by
  obtain ⟨later, earlier, e, rfl, he, hle, hlt⟩ := hi
  exact ⟨h.of_append.start_le.trans hle,
    hlt.trans_le (h.le_frontier (List.mem_append_right _ List.mem_cons_self) he)⟩

/-- **No value is taken twice.** -/
theorem Forward.takes_unique (h : Forward start stop workers) (hi : Takes start stop workers i x)
    (hj : Takes start stop workers j x) : i = j := by
  obtain ⟨later, earlier, e, rfl, he, hle, hlt⟩ := hi
  obtain ⟨later', earlier', e', heq, he', hle', hlt'⟩ := hj
  have hnot : j ∉ earlier := h.of_append.not_mem_earlier hle he' hlt'
  have hnot' : i ∉ earlier' := (heq ▸ h).of_append.not_mem_earlier hle' he hlt
  rcases List.append_eq_append_iff.mp heq with ⟨l, -, hl⟩ | ⟨l, -, hl⟩
  · cases l with
    | nil => exact (List.cons.inj hl).1
    | cons k l => exact absurd (by simp [(List.cons.inj hl).2]) hnot
  · cases l with
    | nil => exact (List.cons.inj hl).1.symm
    | cons k l => exact absurd (by simp [(List.cons.inj hl).2]) hnot'

end BatchIngestion.Library
