import BatchIngestion.Library.Procedure

/-!
# Loops of procedures

A loop completes if every round returns. What holds of the state after the rounds so far is
an invariant, and a fact about the last state that no round made was there from the start.
-/

namespace BatchIngestion.Library.Procedure

variable {ε σ ω α : Type} {x : Procedure ε σ ω Unit} {f : α → Procedure ε σ ω Unit} {s t : σ}

/-- From a state, a procedure returns and leaves another state. -/
def Completes (x : Procedure ε σ ω Unit) (s t : σ) : Prop :=
  (x s).result = .ok () ∧ (x s).state = t

/-- A procedure leaves one state. -/
theorem Completes.unique {u : σ} (h : Completes x s t) (h' : Completes x s u) : t = u :=
  h.2.symm.trans h'.2

/-- A sequence completes exactly when both of its parts do. -/
theorem completes_bind_iff {g : Unit → Procedure ε σ ω Unit} :
    Completes (x >>= g) s t ↔ ∃ u, Completes x s u ∧ Completes (g ()) u t := by
  unfold Completes
  cases hresult : (x s).result with
  | ok a =>
    rw [bind_of_ok hresult]
    simp
  | error e =>
    rw [bind_of_error hresult]
    simp

/-- A suppressed procedure completes exactly when it completes itself or its handler does. -/
theorem completes_suppress_iff {handler : ε → Procedure ε σ ω Unit} :
    Completes (suppress x handler) s t ↔
      Completes x s t ∨ ∃ e, (x s).result = .error e ∧ Completes (handler e) (x s).state t := by
  unfold Completes suppress
  cases hresult : (x s).result <;> simp

/-- The empty loop stays where it is. -/
@[simp] theorem completes_forM_nil : Completes (([] : List α).forM f) s t ↔ s = t := by
  change (Except.ok () = Except.ok () ∧ s = t) ↔ s = t
  simp

/-- A nonempty loop completes exactly when its first round and the rest do. -/
theorem completes_forM_cons_iff {a : α} {l : List α} :
    Completes ((a :: l).forM f) s t ↔ ∃ u, Completes (f a) s u ∧ Completes (l.forM f) u t :=
  completes_bind_iff

/-- A loop over a concatenation is a loop after another one. -/
theorem completes_forM_append_iff {l m : List α} :
    Completes ((l ++ m).forM f) s t ↔
      ∃ u, Completes (l.forM f) s u ∧ Completes (m.forM f) u t := by
  induction l generalizing s with
  | nil =>
    rw [List.nil_append]
    constructor
    · exact fun h => ⟨s, completes_forM_nil.mpr rfl, h⟩
    · rintro ⟨u, hu, h⟩
      rwa [completes_forM_nil.mp hu]
  | cons a l ih =>
    rw [List.cons_append, completes_forM_cons_iff]
    constructor
    · rintro ⟨u, hu, h⟩
      obtain ⟨v, hv, ht⟩ := ih.mp h
      exact ⟨v, completes_forM_cons_iff.mpr ⟨u, hu, hv⟩, ht⟩
    · rintro ⟨v, h, ht⟩
      obtain ⟨u, hu, hv⟩ := completes_forM_cons_iff.mp h
      exact ⟨u, hu, ih.mpr ⟨v, hv, ht⟩⟩

/-- **A loop completes** if every round that the invariant leads to completes and passes the
invariant on. -/
theorem exists_completes_forM {inv : List α → σ → Prop} {l : List α}
    (hround : ∀ done a rest s, l = done ++ a :: rest → inv done s →
      ∃ t, Completes (f a) s t ∧ inv (done ++ [a]) t) (hs : inv [] s) :
    ∃ t, Completes (l.forM f) s t ∧ inv l t := by
  suffices h : ∀ rest done s, l = done ++ rest → inv done s →
      ∃ t, Completes (rest.forM f) s t ∧ inv l t from h l [] s rfl hs
  intro rest
  induction rest with
  | nil =>
    intro done s hl hdone
    refine ⟨s, completes_forM_nil.mpr rfl, ?_⟩
    rwa [hl, List.append_nil]
  | cons a rest ih =>
    intro done s hl hdone
    obtain ⟨u, hu, hinv⟩ := hround done a rest s hl hdone
    obtain ⟨t, ht, hlast⟩ := ih (done ++ [a]) u (by simpa using hl) hinv
    exact ⟨t, completes_forM_cons_iff.mpr ⟨u, hu, ht⟩, hlast⟩

/-- A loop completes, or a round raises after the rounds before it completed. -/
theorem completes_forM_or_raises (f : α → Procedure ε σ ω Unit) (l : List α) (s : σ) :
    (∃ t, Completes (l.forM f) s t) ∨ ∃ done a t e, done ++ [a] <+: l ∧
      Completes (done.forM f) s t ∧ (f a t).result = .error e ∧
      (l.forM f s).result = .error e ∧ (l.forM f s).state = (f a t).state := by
  induction l generalizing s with
  | nil => exact .inl ⟨s, completes_forM_nil.mpr rfl⟩
  | cons a l ih =>
    change (∃ t, Completes (f a >>= fun _ => l.forM f) s t) ∨ ∃ done b t e,
      done ++ [b] <+: a :: l ∧ Completes (done.forM f) s t ∧ (f b t).result = .error e ∧
      ((f a >>= fun _ => l.forM f) s).result = .error e ∧
      ((f a >>= fun _ => l.forM f) s).state = (f b t).state
    cases hround : (f a s).result with
    | error e =>
      rw [bind_of_error hround]
      exact .inr ⟨[], a, s, e, by simp, completes_forM_nil.mpr rfl, hround, rfl, rfl⟩
    | ok u =>
      have hfirst : Completes (f a) s (f a s).state := ⟨hround, rfl⟩
      rcases ih (f a s).state with ⟨t, ht⟩ | ⟨done, b, t, e, hprefix, hdone, herror, hrest⟩
      · exact .inl ⟨t, completes_bind_iff.mpr ⟨_, hfirst, ht⟩⟩
      · rw [bind_of_ok hround]
        exact .inr ⟨a :: done, b, t, e, List.cons_prefix_cons.mpr ⟨rfl, hprefix⟩,
          completes_forM_cons_iff.mpr ⟨_, hfirst, hdone⟩, herror, hrest⟩

/-- **Who made it**: a fact about the last state was there from the start, or a round made it. -/
theorem Completes.forM_origin (fact : σ → Prop) (made : α → Prop) {l : List α}
    (hround : ∀ {a s t}, Completes (f a) s t → fact t → fact s ∨ made a)
    (h : Completes (l.forM f) s t) (ht : fact t) : fact s ∨ ∃ a ∈ l, made a := by
  induction l generalizing s with
  | nil =>
    obtain rfl := completes_forM_nil.mp h
    exact .inl ht
  | cons a l ih =>
    obtain ⟨u, hu, hl⟩ := completes_forM_cons_iff.mp h
    rcases ih hl with hfact | ⟨b, hb, hmade⟩
    · rcases hround hu hfact with hfact | hmade
      · exact .inl hfact
      · exact .inr ⟨a, List.mem_cons_self, hmade⟩
    · exact .inr ⟨b, List.mem_cons_of_mem _ hb, hmade⟩

end BatchIngestion.Library.Procedure
