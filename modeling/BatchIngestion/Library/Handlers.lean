import BatchIngestion.Library.Procedure

/-!
# Failures on their way out

A procedure reports its first failure when the exception that leaves it is the first one that
its log marks, and nothing is written afterwards. Sequences keep this, and so do handlers that
neither raise nor write. A procedure that writes once still does so under handlers that do not.
-/

namespace BatchIngestion.Library

namespace Procedure

variable {ε σ ω α β : Type} {mark : ε → ω} {write : ω → Prop} {x : Procedure ε σ ω α}
  {f : α → Procedure ε σ ω β} {handler : ε → Procedure ε σ ω Unit}

/-! ### Handlers that do no harm -/

/-- A procedure that returns, without an entry that counts as a write. -/
def Harmless (write : ω → Prop) (x : Procedure ε σ ω α) : Prop :=
  ∀ s, (∃ a, (x s).result = .ok a) ∧ ∀ w ∈ (x s).log, ¬ write w

/-- A returned value does no harm. -/
theorem Harmless.ret (a : α) : Harmless write (pure a : Procedure ε σ ω α) :=
  fun _ => ⟨⟨a, rfl⟩, fun _ hw => absurd hw List.not_mem_nil⟩

/-- An entry that is no write does no harm. -/
theorem Harmless.emit {w : ω} (h : ¬ write w) :
    Harmless write (emit w : Procedure ε σ ω Unit) := by
  refine fun s => ⟨⟨(), rfl⟩, fun w' hw => ?_⟩
  obtain rfl := List.mem_singleton.mp hw
  exact h

/-- A sequence of harmless procedures. -/
theorem Harmless.bind (hx : Harmless write x) (hf : ∀ a, Harmless write (f a)) :
    Harmless write (x >>= f) := by
  intro s
  obtain ⟨⟨a, ha⟩, hlog⟩ := hx s
  obtain ⟨⟨b, hb⟩, hlog'⟩ := hf a (x s).state
  rw [bind_of_ok ha]
  exact ⟨⟨b, hb⟩, List.forall_mem_append.mpr ⟨hlog, hlog'⟩⟩

/-- A computation that returns does no harm. -/
theorem Harmless.attempt {r : Except ε α} {a : α} (h : r = .ok a) :
    Harmless write (attempt mark r : Procedure ε σ ω α) := by
  subst h
  exact fun _ => ⟨⟨a, rfl⟩, fun _ hw => absurd hw List.not_mem_nil⟩

/-! ### The first failure -/

/-- A procedure that returns has marked no failure. One that raises has marked that exception
first, and has written nothing since. -/
def Reports (mark : ε → ω) (write : ω → Prop) (x : Procedure ε σ ω α) : Prop :=
  ∀ s, (∀ a, (x s).result = .ok a → ∀ e, mark e ∉ (x s).log) ∧
    ∀ e, (x s).result = .error e → ∃ before after, (x s).log = before ++ mark e :: after ∧
      (∀ e', mark e' ∉ before) ∧ ∀ w ∈ after, ¬ write w

/-- A procedure that returns and marks no failure. -/
theorem Reports.of_harmless (h : Harmless (fun w => ∃ e, w = mark e) x) : Reports mark write x := by
  intro s
  obtain ⟨⟨a, ha⟩, hlog⟩ := h s
  refine ⟨fun _ _ e hmem => hlog _ hmem ⟨e, rfl⟩, fun e he => ?_⟩
  rw [ha] at he
  cases he

/-- A returned value. -/
theorem Reports.ret (a : α) : Reports mark write (pure a : Procedure ε σ ω α) :=
  .of_harmless (.ret a)

/-- An entry that marks no failure. -/
theorem Reports.emit {w : ω} (h : ∀ e, w ≠ mark e) :
    Reports mark write (emit w : Procedure ε σ ω Unit) :=
  .of_harmless (.emit fun ⟨e, he⟩ => h e he)

/-- A change of the state. -/
theorem Reports.modify (g : σ → σ) :
    Reports mark write (modify g : Procedure ε σ ω Unit) :=
  .of_harmless fun _ => ⟨⟨(), rfl⟩, fun _ hw => absurd hw List.not_mem_nil⟩

/-- A look at the state. -/
theorem Reports.read : Reports mark write (read : Procedure ε σ ω σ) :=
  .of_harmless fun s => ⟨⟨s, rfl⟩, fun _ hw => absurd hw List.not_mem_nil⟩

/-- A computation that marks its exception. -/
theorem Reports.attempt (r : Except ε α) :
    Reports mark write (attempt mark r : Procedure ε σ ω α) := by
  intro s
  cases r with
  | ok a => exact ⟨fun _ _ _ hmem => absurd hmem List.not_mem_nil, fun e he => by cases he⟩
  | error e =>
    refine ⟨fun a ha => (by cases ha), fun e' he => ?_⟩
    obtain rfl := Except.error.inj he
    exact ⟨[], [], rfl, fun _ => List.not_mem_nil, fun _ hw => absurd hw List.not_mem_nil⟩

/-- A sequence, whose rest may rely on what the first part returns. -/
theorem Reports.bind_of_returns {p : α → Prop} (hx : Reports mark write x) (hp : Returns x p)
    (hf : ∀ a, p a → Reports mark write (f a)) : Reports mark write (x >>= f) := by
  intro s
  cases hresult : (x s).result with
  | ok a =>
    have hquiet := (hx s).1 a hresult
    obtain ⟨hok, herror⟩ := hf a ((hp s trivial).2 a hresult) (x s).state
    rw [bind_of_ok hresult]
    refine ⟨fun b hb e hmem => ?_, fun e he => ?_⟩
    · exact (List.mem_append.mp hmem).elim (hquiet e) (hok b hb e)
    · obtain ⟨before, after, hlog, hbefore, hafter⟩ := herror e he
      refine ⟨(x s).log ++ before, after, ?_, fun e' hmem => ?_, hafter⟩
      · rw [hlog, List.append_assoc]
      · exact (List.mem_append.mp hmem).elim (hquiet e') (hbefore e')
  | error e =>
    rw [bind_of_error hresult]
    refine ⟨fun b hb => (by cases hb), fun e' he => ?_⟩
    obtain rfl := Except.error.inj he
    exact (hx s).2 e hresult

/-- A sequence. -/
theorem Reports.bind (hx : Reports mark write x) (hf : ∀ a, Reports mark write (f a)) :
    Reports mark write (x >>= f) :=
  hx.bind_of_returns Returns.any fun a _ => hf a

/-- A harmless handler lets the first failure through. -/
theorem Reports.onException (hx : Reports mark write x)
    (hhandler : ∀ e, Harmless write (handler e)) :
    Reports mark write (onException x handler) := by
  intro s
  cases hresult : (x s).result with
  | ok a =>
    rw [onException_of_ok hresult]
    exact ⟨fun _ _ => (hx s).1 a hresult, fun e he => by cases he⟩
  | error e =>
    obtain ⟨before, after, hlog, hbefore, hafter⟩ := (hx s).2 e hresult
    obtain ⟨⟨a, ha⟩, hlog'⟩ := hhandler e (x s).state
    rw [onException_of_error hresult, ha]
    refine ⟨fun b hb => (by cases hb), fun e' he => ?_⟩
    obtain rfl := Except.error.inj he
    refine ⟨before, after ++ (handler e (x s).state).log, ?_, hbefore, ?_⟩
    · rw [hlog, List.append_assoc, List.cons_append]
    · exact List.forall_mem_append.mpr ⟨hafter, hlog'⟩

/-! ### One write -/

/-- A procedure makes one entry of a kind, `w`, and then relates the view of the state it leaves to
the one it found. Or it raises without such an entry, and keeps the view. -/
def WritesAs {τ : Type} (view : σ → τ) (kind : ω → Bool) (w : ω) (rel : τ → τ → Prop)
    (x : Procedure ε σ ω α) : Prop :=
  ∀ s, ((x s).log.filter kind = [] ∧ view (x s).state = view s ∧ ∃ e, (x s).result = .error e) ∨
    ((x s).log.filter kind = [w] ∧ rel (view s) (view (x s).state))

/-- A procedure writes `w` once, with its change of the view of the state, or raises without it. -/
def WritesOnce {τ : Type} (view : σ → τ) (kind : ω → Bool) (w : ω) (change : τ → τ)
    (x : Procedure ε σ ω α) : Prop :=
  ∀ s, ((x s).log.filter kind = [] ∧ view (x s).state = view s ∧ ∃ e, (x s).result = .error e) ∨
    ((x s).log.filter kind = [w] ∧ view (x s).state = change (view s))

section WritesOnce

variable {τ : Type} {view : σ → τ} {kind : ω → Bool} {w : ω} {rel : τ → τ → Prop} {change : τ → τ}

/-- Writing once is writing with a change. -/
theorem writesOnce_iff : WritesOnce view kind w change x ↔
    WritesAs view kind w (fun v v' => v' = change v) x := Iff.rfl

/-- Entries that are all of another kind. -/
theorem Logs.filter_eq_nil (h : Logs (fun w => kind w = false) x) (s : σ) :
    (x s).log.filter kind = [] :=
  List.filter_eq_nil_iff.mpr fun w hw => by simp [(h s trivial).1 w hw]

/-- A quiet procedure makes no entry of the kind. -/
theorem Quiet.filter_eq_nil (h : Quiet view (fun w => kind w = false) x) (s : σ) :
    (x s).log.filter kind = [] :=
  h.logs.filter_eq_nil s

/-- The entry comes first, and whatever happens to the state later. -/
theorem WritesAs.start {rest : Procedure ε σ ω α} (hkind : kind w = true)
    (hrest : Logs (fun w => kind w = false) rest) :
    WritesAs view kind w (fun _ _ => True) (emit w >>= fun _ => rest) := by
  intro s
  have heq : (emit w >>= fun _ => rest) s =
      ⟨(rest s).result, (rest s).state, w :: (rest s).log⟩ := by
    rw [bind_of_ok (a := ()) rfl]
    rfl
  rw [heq, List.filter_cons_of_pos hkind, hrest.filter_eq_nil]
  exact .inr ⟨rfl, trivial⟩

/-- The entry comes after other things, and may rely on what they return. -/
theorem WritesAs.after_of_returns {p : α → Prop} (hx : Quiet view (fun w => kind w = false) x)
    (hp : Returns x p) (hf : ∀ a, p a → WritesAs view kind w rel (f a)) :
    WritesAs view kind w rel (x >>= f) := by
  intro s
  have hnil := hx.filter_eq_nil s
  cases hresult : (x s).result with
  | ok a =>
    have hnext := hf a ((hp s trivial).2 a hresult) (x s).state
    rw [bind_of_ok hresult]
    simpa only [List.filter_append, hnil, List.nil_append, (hx s).2] using hnext
  | error e =>
    rw [bind_of_error hresult]
    exact .inl ⟨hnil, (hx s).2, e, rfl⟩

/-- The entry comes after other things. -/
theorem WritesAs.after (hx : Quiet view (fun w => kind w = false) x)
    (hf : ∀ a, WritesAs view kind w rel (f a)) : WritesAs view kind w rel (x >>= f) :=
  .after_of_returns hx Returns.any fun a _ => hf a

/-- A handler makes no entry of the kind. -/
theorem WritesAs.onException (hx : WritesAs view kind w rel x)
    (hhandler : ∀ e, Quiet view (fun w => kind w = false) (handler e)) :
    WritesAs view kind w rel (onException x handler) := by
  intro s
  cases hresult : (x s).result with
  | ok a =>
    rw [onException_of_ok hresult]
    exact (hx s).imp_left fun ⟨_, _, e, he⟩ => by
      rw [hresult] at he
      cases he
  | error e =>
    have hnil := (hhandler e).filter_eq_nil (x s).state
    rw [onException_of_error hresult]
    simp only [List.filter_append, hnil, List.append_nil, (hhandler e _).2]
    refine (hx s).imp_left fun ⟨hlog, hview, _⟩ => ⟨hlog, hview, ?_⟩
    cases (handler e (x s).state).result with
    | ok a => exact ⟨e, rfl⟩
    | error e' => exact ⟨e', rfl⟩

/-- The change and its entry. -/
theorem WritesOnce.commit {g : σ → σ} {rest : Procedure ε σ ω α} (hkind : kind w = true)
    (hview : ∀ s, view (g s) = change (view s))
    (hrest : Quiet view (fun w => kind w = false) rest) :
    WritesOnce view kind w change (modify g >>= fun _ => emit w >>= fun _ => rest) := by
  intro s
  have heq : (modify g >>= fun _ => emit w >>= fun _ => rest) s =
      ⟨(rest (g s)).result, (rest (g s)).state, w :: (rest (g s)).log⟩ := by
    rw [bind_of_ok (a := ()) rfl, bind_of_ok (a := ()) rfl]
    rfl
  rw [heq]
  refine .inr ⟨?_, (hrest (g s)).2.trans (hview s)⟩
  rw [List.filter_cons_of_pos hkind, hrest.filter_eq_nil]

/-- The write comes after other things, and may rely on what they return. -/
theorem WritesOnce.after_of_returns {p : α → Prop} (hx : Quiet view (fun w => kind w = false) x)
    (hp : Returns x p) (hf : ∀ a, p a → WritesOnce view kind w change (f a)) :
    WritesOnce view kind w change (x >>= f) :=
  writesOnce_iff.mpr (.after_of_returns hx hp hf)

/-- The write comes after other things. -/
theorem WritesOnce.after (hx : Quiet view (fun w => kind w = false) x)
    (hf : ∀ a, WritesOnce view kind w change (f a)) : WritesOnce view kind w change (x >>= f) :=
  .after_of_returns hx Returns.any fun a _ => hf a

/-- The write comes before other things. -/
theorem WritesOnce.before (hx : WritesOnce view kind w change x)
    (hf : ∀ a, Quiet view (fun w => kind w = false) (f a)) :
    WritesOnce view kind w change (x >>= f) := by
  intro s
  cases hresult : (x s).result with
  | ok a =>
    have hnil := (hf a).filter_eq_nil (x s).state
    rw [bind_of_ok hresult]
    rcases hx s with ⟨-, -, e, he⟩ | hwritten
    · rw [hresult] at he
      cases he
    · simp only [List.filter_append, hnil, List.append_nil, (hf a _).2]
      exact .inr hwritten
  | error e =>
    rw [bind_of_error hresult]
    exact (hx s).imp_left fun ⟨hnil, hview, _⟩ => ⟨hnil, hview, e, rfl⟩

/-- A handler does not write. -/
theorem WritesOnce.onException (hx : WritesOnce view kind w change x)
    (hhandler : ∀ e, Quiet view (fun w => kind w = false) (handler e)) :
    WritesOnce view kind w change (onException x handler) :=
  writesOnce_iff.mpr (.onException hx hhandler)

/-- **A handler runs once** if its procedure raises, and not at all if it returns. -/
theorem onException_handled {entry : ε → ω} (hx : Logs (fun w => kind w = false) x)
    (hhandler : ∀ e s, (handler e s).log.filter kind = [entry e]) (s : σ) :
    (∃ a, (onException x handler s).result = .ok a ∧
        (onException x handler s).log.filter kind = []) ∨
      ∃ e e', (x s).result = .error e ∧ (onException x handler s).result = .error e' ∧
        (onException x handler s).log.filter kind = [entry e] := by
  have hnil := hx.filter_eq_nil s
  cases hresult : (x s).result with
  | ok a =>
    rw [onException_of_ok hresult]
    exact .inl ⟨a, rfl, hnil⟩
  | error e =>
    rw [onException_of_error hresult]
    simp only [List.filter_append, hnil, List.nil_append, hhandler]
    cases (handler e (x s).state).result with
    | ok a => exact .inr ⟨e, e, rfl, rfl, rfl⟩
    | error e' => exact .inr ⟨e, e', rfl, rfl, rfl⟩

end WritesOnce

end Procedure

end BatchIngestion.Library
