import Mathlib.Data.Set.Basic
import Mathlib.Order.Basic

/-!
# Watermarks

Records with a rank come and go, and consumers write the records of windows of
ranks somewhere. A value is a watermark when every present record up to it has been
written. Records that arrive later have ranks above everything that was reported
before, so a reported watermark stays one.
-/

namespace BatchIngestion.Library

variable {ρ α : Type*} [LinearOrder α] {rank : ρ → α}

/-- Every present record whose rank is at most the value has been written. -/
def Covered (rank : ρ → α) (present written : Set ρ) (value : α) : Prop :=
  ∀ r ∈ present, rank r ≤ value → r ∈ written

/-- New records have ranks above every reported value; records may disappear. -/
def Fresh (rank : ρ → α) (reported : Set α) (present next : Set ρ) : Prop :=
  ∀ r ∈ next, r ∈ present ∨ ∀ v ∈ reported, v < rank r

variable {present next written written' : Set ρ} {reported : Set α} {value low high : α}

/-- A record that is present after a change and not above a reported value was there
before. -/
theorem Fresh.mem_of_le (h : Fresh rank reported present next) (hvalue : value ∈ reported) {r : ρ}
    (hr : r ∈ next) (hle : rank r ≤ value) : r ∈ present :=
  (h r hr).resolve_right fun hnew => absurd hle (not_le.mpr (hnew value hvalue))

/-- A reported watermark survives every change of the records. -/
theorem Covered.of_fresh (h : Covered rank present written value)
    (hfresh : Fresh rank reported present next) (hvalue : value ∈ reported) :
    Covered rank next written value :=
  fun r hr hle => h r (hfresh.mem_of_le hvalue hr hle) hle

/-- A watermark stays one when more is written. -/
theorem Covered.mono (h : Covered rank present written value) (hwritten : written ⊆ written') :
    Covered rank present written' value :=
  fun r hr hle => hwritten (h r hr hle)

/-- Writing the window above a watermark raises the watermark. -/
theorem Covered.raise (hlow : Covered rank present written low)
    (hwindow : ∀ r ∈ present, low < rank r → rank r ≤ high → r ∈ written) :
    Covered rank present written high := by
  intro r hr hle
  rcases le_or_gt (rank r) low with hr' | hr'
  · exact hlow r hr hr'
  · exact hwindow r hr hr' hle

/-! ### The place of a record -/

/-- A rank has its place among the values reported so far, newest first: it is at most what
was reported since the record appeared, and above what was reported before. -/
def Placed (reported : List α) (x : α) : Prop :=
  ∃ newer older, reported = newer ++ older ∧ (∀ v ∈ newer, x ≤ v) ∧ ∀ v ∈ older, v < x

variable {reported : List α} {x v w : α}

/-- What ranks above every reported value is placed at the front. -/
theorem placed_of_forall_lt (h : ∀ v ∈ reported, v < x) : Placed reported x :=
  ⟨[], reported, rfl, by simp, h⟩

/-- A value that is reported while the record is present does not displace it. -/
theorem Placed.report (h : Placed reported x) (hle : x ≤ v) : Placed (v :: reported) x := by
  obtain ⟨newer, older, rfl, hnewer, holder⟩ := h
  refine ⟨v :: newer, older, rfl, fun w hw => ?_, holder⟩
  rcases List.mem_cons.mp hw with rfl | hw
  · exact hle
  · exact hnewer w hw

/-- What ranks above a reported value ranks above everything that was reported before. -/
theorem Placed.lt_of_lt {newer older : List α} (h : Placed (newer ++ v :: older) x) (hv : v < x)
    (hw : w ∈ older) : w < x := by
  obtain ⟨newer', older', heq, hnewer, holder⟩ := h
  rcases List.append_eq_append_iff.mp heq with ⟨l, rfl, hl⟩ | ⟨l, rfl, hl⟩
  · -- the reported value would be among those that are at least the rank
    cases l with
    | nil =>
      rw [List.nil_append] at hl
      exact holder w (hl ▸ List.mem_cons_of_mem _ hw)
    | cons u l =>
      obtain ⟨rfl, rfl⟩ := List.cons.inj hl
      exact absurd (hnewer v (by simp)) (not_le.mpr hv)
  · exact holder w (by simp [hl, hw])

end BatchIngestion.Library
