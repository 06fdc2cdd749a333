import BatchIngestion.Library.Fallible

/-!
# The greatest element under a comparison that may fail

A loop keeps the greatest element that it has seen. Two elements may not compare, and then the
loop fails. Where the comparison succeeds it decides an order, so a loop that returns has found
an element that all others are at most, whatever their sequence was.
-/

namespace BatchIngestion.Library

variable {ε α : Type}

/-- One round of the loop: a candidate replaces the best element if it is greater. -/
def greaterOf (gt : α → α → Except ε Bool) (best : Option α) (a : α) : Except ε (Option α) :=
  match best with
  | none => .ok (some a)
  | some b => do
    let greater ← gt a b
    return if greater then some a else some b

/-- Where a comparison succeeds, it decides a transitive relation. -/
structure Decides (gt : α → α → Except ε Bool) (le : α → α → Prop) : Prop where
  /-- Every element is at most itself. -/
  refl : ∀ a, le a a
  /-- The relation is transitive. -/
  trans : ∀ {a b c}, le a b → le b c → le a c
  /-- What an element is greater than is at most that element. -/
  le_of_gt : ∀ {a b}, gt a b = .ok true → le b a
  /-- An element that is not greater is at most the other one. -/
  le_of_not_gt : ∀ {a b}, gt a b = .ok false → le a b

section Loop

variable {gt : α → α → Except ε Bool} {le : α → α → Prop} {best r : Option α} {l : List α}

/-- A round ends with the candidate or with the best element, and both are at most that. -/
theorem greaterOf_spec (h : Decides gt le) {a : α} (hround : greaterOf gt best a = .ok r) :
    ∃ m, r = some m ∧ (m = a ∨ best = some m) ∧ le a m ∧ ∀ b, best = some b → le b m := by
  cases best with
  | none =>
    obtain rfl := Except.ok.inj hround
    exact ⟨a, rfl, .inl rfl, h.refl a, fun b hb => by cases hb⟩
  | some b =>
    obtain ⟨greater, hgt, hround⟩ := bind_eq_ok_iff.mp hround
    obtain rfl := Except.ok.inj hround
    cases greater with
    | true =>
      refine ⟨a, rfl, .inl rfl, h.refl a, fun c hc => ?_⟩
      obtain rfl := Option.some.inj hc
      exact h.le_of_gt hgt
    | false =>
      refine ⟨b, rfl, .inr rfl, h.le_of_not_gt hgt, fun c hc => ?_⟩
      obtain rfl := Option.some.inj hc
      exact h.refl b

/-- A loop that returns ends with an element that all elements are at most. -/
theorem foldlM_greaterOf_spec (h : Decides gt le) (hfold : l.foldlM (greaterOf gt) best = .ok r) :
    (∀ m, r = some m → m ∈ l ∨ best = some m) ∧ (∀ a ∈ l, ∃ m, r = some m ∧ le a m) ∧
      ∀ b, best = some b → ∃ m, r = some m ∧ le b m := by
  induction l generalizing best with
  | nil =>
    obtain rfl : best = r := Except.ok.inj hfold
    exact ⟨fun m hm => .inr hm, fun a ha => absurd ha List.not_mem_nil,
      fun b hb => ⟨b, hb, h.refl b⟩⟩
  | cons a l ih =>
    rw [List.foldlM_cons] at hfold
    obtain ⟨next, hround, hrest⟩ := bind_eq_ok_iff.mp hfold
    obtain ⟨c, rfl, hc, hac, hbest⟩ := greaterOf_spec h hround
    obtain ⟨hmem, hall, hnext⟩ := ih hrest
    obtain ⟨m, rfl, hcm⟩ := hnext c rfl
    refine ⟨fun m' hm' => ?_, fun a' ha' => ?_, fun b hb => ⟨m, rfl, h.trans (hbest b hb) hcm⟩⟩
    · rcases hmem m' hm' with hl | heq
      · exact .inl (List.mem_cons_of_mem _ hl)
      · obtain rfl := Option.some.inj heq
        rcases hc with rfl | hb
        · exact .inl List.mem_cons_self
        · exact .inr hb
    · rcases List.mem_cons.mp ha' with rfl | hl
      · exact ⟨m, rfl, h.trans hac hcm⟩
      · exact hall a' hl

/-- A loop over elements that compare with each other returns. -/
theorem exists_foldlM_greaterOf {p : α → Prop}
    (hcompare : ∀ a b, p a → p b → ∃ greater, gt a b = .ok greater) (hl : ∀ a ∈ l, p a)
    (hbest : ∀ b, best = some b → p b) : ∃ r, l.foldlM (greaterOf gt) best = .ok r := by
  induction l generalizing best with
  | nil => exact ⟨best, rfl⟩
  | cons a l ih =>
    obtain ⟨ha, hl⟩ := List.forall_mem_cons.mp hl
    have hround : ∃ next, greaterOf gt best a = .ok next ∧ ∀ b, next = some b → p b := by
      cases best with
      | none =>
        refine ⟨some a, rfl, fun b hb => ?_⟩
        obtain rfl := Option.some.inj hb
        exact ha
      | some b =>
        obtain ⟨greater, hgt⟩ := hcompare a b ha (hbest b rfl)
        refine ⟨_, by rw [greaterOf, hgt, ok_bind, pure_eq_ok], fun c hc => ?_⟩
        cases greater with
        | true =>
          obtain rfl := Option.some.inj hc
          exact ha
        | false =>
          obtain rfl := Option.some.inj hc
          exact hbest _ rfl
    obtain ⟨next, hnext, hp⟩ := hround
    obtain ⟨r, hr⟩ := ih hl hp
    exact ⟨r, by rw [List.foldlM_cons, hnext, ok_bind, hr]⟩

/-- **The loop finds the greatest element**: over elements that compare with each other, it
returns nothing for no elements, and else the element that all of them are at most. -/
theorem foldlM_greaterOf_eq_ok_iff (h : Decides gt le) {p : α → Prop}
    (hcompare : ∀ a b, p a → p b → ∃ greater, gt a b = .ok greater)
    (hantisymm : ∀ a b, p a → p b → le a b → le b a → a = b) (hl : ∀ a ∈ l, p a) :
    l.foldlM (greaterOf gt) none = .ok r ↔
      (l = [] ∧ r = none) ∨ ∃ m ∈ l, r = some m ∧ ∀ a ∈ l, le a m := by
  have hnone : ∀ b, (none : Option α) = some b → p b := nofun
  obtain ⟨found, hfound⟩ := exists_foldlM_greaterOf hcompare hl hnone
  obtain ⟨hmem, hall, -⟩ := foldlM_greaterOf_spec h hfound
  rw [hfound, Except.ok.injEq]
  constructor
  · rintro rfl
    cases l with
    | nil => exact .inl ⟨rfl, (Except.ok.inj hfound).symm⟩
    | cons a l =>
      obtain ⟨m, rfl, -⟩ := hall a List.mem_cons_self
      refine .inr ⟨m, (hmem m rfl).resolve_right nofun, rfl, fun a' ha' => ?_⟩
      obtain ⟨m', hm', hle⟩ := hall a' ha'
      obtain rfl := Option.some.inj hm'
      exact hle
  · rintro (⟨rfl, rfl⟩ | ⟨m, hm, rfl, hgreatest⟩)
    · exact (Except.ok.inj hfound).symm
    · obtain ⟨m', rfl, hle⟩ := hall m hm
      have hm' := (hmem m' rfl).resolve_right nofun
      rw [hantisymm m' m (hl m' hm') (hl m hm) (hgreatest m' hm') hle]

end Loop

end BatchIngestion.Library
