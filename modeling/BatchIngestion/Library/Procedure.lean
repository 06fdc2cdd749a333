import Mathlib.Logic.Basic
import Mathlib.Data.List.Basic

/-!
# Procedures that raise

A procedure changes a state, makes entries in a log, and returns a value or raises. What it
changed and logged before it raises stays, as in an imperative language. The rules say what a
composed procedure does to the state and the log, also on its way out through handlers.
-/

namespace BatchIngestion.Library

/-- What a procedure did: its result, the state it left and its log entries, oldest first. -/
structure Outcome (ε σ ω α : Type) where
  /-- The value, or the exception. -/
  result : Except ε α
  /-- The state. -/
  state : σ
  /-- The log entries. -/
  log : List ω

/-- A procedure on states `σ` with exceptions `ε` and log entries `ω`. -/
def Procedure (ε σ ω α : Type) : Type := σ → Outcome ε σ ω α

namespace Procedure

variable {ε σ ω α β : Type}

/-- Return a value. -/
def ret (a : α) : Procedure ε σ ω α := fun s => ⟨.ok a, s, []⟩

/-- Run a procedure, then another one with its value. -/
def andThen (x : Procedure ε σ ω α) (f : α → Procedure ε σ ω β) : Procedure ε σ ω β := fun s =>
  match (x s).result with
  | .ok a =>
    let next := f a (x s).state
    ⟨next.result, next.state, (x s).log ++ next.log⟩
  | .error e => ⟨.error e, (x s).state, (x s).log⟩

instance : Monad (Procedure ε σ ω) where
  pure := ret
  bind := andThen

/-- Make a log entry. -/
def emit (w : ω) : Procedure ε σ ω Unit := fun s => ⟨.ok (), s, [w]⟩

/-- The current state. -/
def read : Procedure ε σ ω σ := fun s => ⟨.ok s, s, []⟩

/-- Change the state. -/
def modify (f : σ → σ) : Procedure ε σ ω Unit := fun s => ⟨.ok (), f s, []⟩

/-- A computation that may raise, with a log entry when it does. -/
def attempt (mark : ε → ω) (x : Except ε α) : Procedure ε σ ω α := fun s =>
  match x with
  | .ok a => ⟨.ok a, s, []⟩
  | .error e => ⟨.error e, s, [mark e]⟩

/-- A computation that may raise, without a log entry. -/
def ofExcept (x : Except ε α) : Procedure ε σ ω α := fun s => ⟨x, s, []⟩

/-- `try: body; except e: handler(e); raise`. An exception of the handler takes the place of
the one it handles. -/
def onException (body : Procedure ε σ ω α) (handler : ε → Procedure ε σ ω Unit) :
    Procedure ε σ ω α := fun s =>
  match (body s).result with
  | .ok a => ⟨.ok a, (body s).state, (body s).log⟩
  | .error e =>
    let next := handler e (body s).state
    ⟨next.result.bind fun _ => .error e, next.state, (body s).log ++ next.log⟩

/-- `try: body; except e: handler(e)`. -/
def suppress (body : Procedure ε σ ω Unit) (handler : ε → Procedure ε σ ω Unit) :
    Procedure ε σ ω Unit := fun s =>
  match (body s).result with
  | .ok a => ⟨.ok a, (body s).state, (body s).log⟩
  | .error e =>
    let next := handler e (body s).state
    ⟨next.result, next.state, (body s).log ++ next.log⟩

/-- `try: body; finally: cleanup`. -/
def ensuring (body : Procedure ε σ ω α) (cleanup : Procedure ε σ ω Unit) : Procedure ε σ ω α :=
  fun s =>
    let last := cleanup (body s).state
    ⟨last.result.bind fun _ => (body s).result, last.state, (body s).log ++ last.log⟩

/-- A procedure without a state, with its log entries renamed. -/
def lift {ω' : Type} (rename : ω' → ω) (x : Procedure ε Unit ω' α) : Procedure ε σ ω α := fun s =>
  ⟨(x ()).result, s, (x ()).log.map rename⟩

/-! ### Triples -/

/-- From a state with `pre`, a procedure makes good log entries only, and when it returns its
value and the state it leaves have `post`. -/
def Triple (pre : σ → Prop) (good : ω → Prop) (x : Procedure ε σ ω α)
    (post : α → σ → Prop) : Prop :=
  ∀ s, pre s → (∀ w ∈ (x s).log, good w) ∧ ∀ a, (x s).result = .ok a → post a (x s).state

variable {pre : σ → Prop} {good : ω → Prop} {mark : ε → ω} {x : Procedure ε σ ω α}
  {f : α → Procedure ε σ ω β} {handler : ε → Procedure ε σ ω Unit}

/-- The equation of a sequence whose first part returns. -/
theorem bind_of_ok {s : σ} {a : α} (h : (x s).result = .ok a) :
    (x >>= f) s = ⟨(f a (x s).state).result, (f a (x s).state).state,
      (x s).log ++ (f a (x s).state).log⟩ := by
  change andThen x f s = _
  rw [andThen, h]

/-- The equation of a sequence whose first part raises. -/
theorem bind_of_error {s : σ} {e : ε} (h : (x s).result = .error e) :
    (x >>= f) s = ⟨.error e, (x s).state, (x s).log⟩ := by
  change andThen x f s = _
  rw [andThen, h]

/-- The equation of a sequence whose first part returns without a log entry. -/
theorem bind_of_silent {s t : σ} {a : α} (h : x s = ⟨.ok a, t, []⟩) : (x >>= f) s = f a t := by
  rw [bind_of_ok (congrArg Outcome.result h), h]
  rfl

/-- A sequence that starts with a value. -/
theorem pure_bind_eq (a : α) (f : α → Procedure ε σ ω β) : (pure a >>= f) = f a := rfl

/-- Sequences associate. -/
theorem bind_bind_eq {γ : Type} (x : Procedure ε σ ω α) (f : α → Procedure ε σ ω β)
    (g : β → Procedure ε σ ω γ) : ((x >>= f) >>= g) = x >>= fun a => f a >>= g := by
  funext s
  cases hx : (x s).result with
  | error e =>
    have hxf := bind_of_error (f := f) hx
    rw [bind_of_error hx, bind_of_error (congrArg Outcome.result hxf), hxf]
  | ok a =>
    have hxf := bind_of_ok (f := f) hx
    rw [bind_of_ok hx]
    cases hf : (f a (x s).state).result with
    | error e =>
      rw [bind_of_error ((congrArg Outcome.result hxf).trans hf), bind_of_error hf, hxf]
    | ok b =>
      rw [bind_of_ok ((congrArg Outcome.result hxf).trans hf), bind_of_ok hf, hxf,
        List.append_assoc]

/-- The equation of a sequence that only changes the value. -/
theorem bind_pure_eq (g : α → β) (s : σ) :
    (x >>= fun a => pure (g a)) s = ⟨(x s).result.map g, (x s).state, (x s).log⟩ := by
  cases h : (x s).result with
  | ok a =>
    rw [bind_of_ok h]
    exact congrArg (Outcome.mk _ _) (List.append_nil _)
  | error e =>
    rw [bind_of_error h]
    rfl

/-- The equation of a sequence that starts with a look at the state. -/
@[simp] theorem read_bind (f : σ → Procedure ε σ ω β) (s : σ) :
    ((read : Procedure ε σ ω σ) >>= f) s = f s s := rfl

/-- The equation of a sequence that starts with a change of the state. -/
@[simp] theorem modify_bind (g : σ → σ) (f : Unit → Procedure ε σ ω β) (s : σ) :
    ((modify g : Procedure ε σ ω Unit) >>= f) s = f () (g s) := rfl

/-- The equation of a sequence that starts with a computation that returns. -/
@[simp] theorem ofExcept_ok_bind (a : α) (f : α → Procedure ε σ ω β) (s : σ) :
    ((ofExcept (.ok a) : Procedure ε σ ω α) >>= f) s = f a s := rfl

/-- The equation of a sequence that starts with a computation that raises. -/
@[simp] theorem ofExcept_error_bind (e : ε) (f : α → Procedure ε σ ω β) (s : σ) :
    ((ofExcept (.error e) : Procedure ε σ ω α) >>= f) s = ⟨.error e, s, []⟩ := rfl

/-- The equation of a change of the state. -/
theorem modify_eq (g : σ → σ) (s : σ) :
    (modify g : Procedure ε σ ω Unit) s = ⟨.ok (), g s, []⟩ := rfl

/-- A sequence whose second part changes nothing leaves the state of its first part. -/
theorem state_bind_of_frame (hf : ∀ a s, (f a s).state = s) (s : σ) :
    ((x >>= f) s).state = (x s).state := by
  cases hx : (x s).result with
  | ok a =>
    rw [bind_of_ok hx]
    exact hf a _
  | error e => rw [bind_of_error hx]

/-- The equation of a handled procedure that returns. -/
theorem onException_of_ok {s : σ} {a : α} (h : (x s).result = .ok a) :
    onException x handler s = ⟨.ok a, (x s).state, (x s).log⟩ := by
  rw [onException, h]

/-- The equation of a handled procedure that raises. -/
theorem onException_of_error {s : σ} {e : ε} (h : (x s).result = .error e) :
    onException x handler s = ⟨(handler e (x s).state).result.bind fun _ => .error e,
      (handler e (x s).state).state, (x s).log ++ (handler e (x s).state).log⟩ := by
  rw [onException, h]

/-- A returned value. -/
theorem Triple.ret {a : α} {post : α → σ → Prop} (h : ∀ s, pre s → post a s) :
    Triple pre good (pure a : Procedure ε σ ω α) post := by
  intro s hs
  refine ⟨fun w hw => absurd hw List.not_mem_nil, fun b hb => ?_⟩
  obtain rfl := Except.ok.inj hb
  exact h s hs

/-- A sequence. -/
theorem Triple.bind {mid : α → σ → Prop} {post : β → σ → Prop} (hx : Triple pre good x mid)
    (hf : ∀ a, Triple (mid a) good (f a) post) : Triple pre good (x >>= f) post := by
  intro s hs
  obtain ⟨hlog, hmid⟩ := hx s hs
  cases hresult : (x s).result with
  | ok a =>
    obtain ⟨hlog', hpost⟩ := hf a _ (hmid a hresult)
    rw [bind_of_ok hresult]
    exact ⟨List.forall_mem_append.mpr ⟨hlog, hlog'⟩, hpost⟩
  | error e =>
    rw [bind_of_error hresult]
    exact ⟨hlog, fun b hb => by simp at hb⟩

/-- A stronger precondition and a weaker postcondition. -/
theorem Triple.conseq {pre' : σ → Prop} {post post' : α → σ → Prop} (h : Triple pre good x post)
    (hpre : ∀ s, pre' s → pre s) (hpost : ∀ a s, post a s → post' a s) :
    Triple pre' good x post' := by
  intro s hs
  obtain ⟨hlog, hresult⟩ := h s (hpre s hs)
  exact ⟨hlog, fun a ha => hpost a _ (hresult a ha)⟩

/-- A log entry. -/
theorem Triple.emit {w : ω} (h : ∀ s, pre s → good w) :
    Triple pre good (emit w : Procedure ε σ ω Unit) fun _ s => pre s := by
  intro s hs
  refine ⟨fun w' hw => ?_, fun _ _ => hs⟩
  obtain rfl := List.mem_singleton.mp hw
  exact h s hs

/-- A change of the state. -/
theorem Triple.modify {g : σ → σ} {post : Unit → σ → Prop} (h : ∀ s, pre s → post () (g s)) :
    Triple pre good (modify g : Procedure ε σ ω Unit) post :=
  fun s hs => ⟨fun _ hw => absurd hw List.not_mem_nil, fun _ _ => h s hs⟩

/-- A look at the state. -/
theorem Triple.read : Triple pre good (read : Procedure ε σ ω σ) fun a s => pre s ∧ a = s :=
  fun _ hs => ⟨fun _ hw => absurd hw List.not_mem_nil, fun _ ha => ⟨hs, (Except.ok.inj ha).symm⟩⟩

/-- A computation that may raise. -/
theorem Triple.attempt {r : Except ε α} (h : ∀ e, good (mark e)) :
    Triple pre good (attempt mark r : Procedure ε σ ω α) fun a s => pre s ∧ r = .ok a := by
  intro s hs
  cases r with
  | ok a => exact ⟨fun _ hw => absurd hw List.not_mem_nil, fun _ ha => ⟨hs, ha⟩⟩
  | error e =>
    refine ⟨fun w hw => ?_, fun a ha => by simp [Procedure.attempt] at ha⟩
    obtain rfl := List.mem_singleton.mp hw
    exact h e

/-- A handler that makes good entries keeps a triple. -/
theorem Triple.onException {post : α → σ → Prop} (hx : Triple pre good x post)
    (hhandler : ∀ e, Triple (fun _ => True) good (handler e) fun _ _ => True) :
    Triple pre good (onException x handler) post := by
  intro s hs
  obtain ⟨hlog, hpost⟩ := hx s hs
  cases hresult : (x s).result with
  | ok a =>
    rw [onException_of_ok hresult]
    exact ⟨hlog, fun b hb => hpost b (hresult.trans hb)⟩
  | error e =>
    rw [onException_of_error hresult]
    refine ⟨List.forall_mem_append.mpr ⟨hlog, (hhandler e _ trivial).1⟩, fun b hb => ?_⟩
    cases hnext : (handler e (x s).state).result <;> simp [hnext, Except.bind] at hb

/-- A computation that may raise and makes no log entry. -/
theorem Triple.ofExcept (r : Except ε α) :
    Triple pre good (ofExcept r : Procedure ε σ ω α) fun a s => pre s ∧ r = .ok a :=
  fun _ hs => ⟨fun _ hw => absurd hw List.not_mem_nil, fun _ ha => ⟨hs, ha⟩⟩

/-- A handler that makes good entries, in place of the exception. -/
theorem Triple.suppress {x : Procedure ε σ ω Unit} {post : Unit → σ → Prop}
    (hx : Triple pre good x post)
    (hhandler : ∀ e, Triple (fun _ => True) good (handler e) fun _ _ => True) :
    Triple pre good (suppress x handler) fun _ _ => True := by
  intro s hs
  obtain ⟨hlog, -⟩ := hx s hs
  refine ⟨?_, fun _ _ => trivial⟩
  unfold Procedure.suppress
  cases hresult : (x s).result with
  | ok a => exact hlog
  | error e => exact List.forall_mem_append.mpr ⟨hlog, (hhandler e _ trivial).1⟩

/-- A procedure that makes good log entries only. -/
abbrev Logs (good : ω → Prop) (x : Procedure ε σ ω α) : Prop :=
  Triple (fun _ => True) good x fun _ _ => True

/-- A sequence of procedures with good entries. -/
theorem Logs.bind (hx : Logs good x) (hf : ∀ a, Logs good (f a)) : Logs good (x >>= f) :=
  Triple.bind hx hf

/-- A cleanup that makes good entries. -/
theorem Logs.ensuring {cleanup : Procedure ε σ ω Unit} (hx : Logs good x)
    (hcleanup : Logs good cleanup) : Logs good (ensuring x cleanup) := fun s _ =>
  ⟨List.forall_mem_append.mpr ⟨(hx s trivial).1, (hcleanup _ trivial).1⟩, fun _ _ => trivial⟩

/-- A triple says what is logged. -/
theorem Triple.logs {post : α → σ → Prop} (h : Triple (fun _ => True) good x post) : Logs good x :=
  h.conseq (fun _ hs => hs) fun _ _ _ => trivial

/-- A change of the state logs nothing. -/
theorem Logs.modify (g : σ → σ) : Logs good (modify g : Procedure ε σ ω Unit) :=
  Triple.modify fun _ _ => trivial

/-- An entry. -/
theorem Logs.emit {w : ω} (h : good w) : Logs good (emit w : Procedure ε σ ω Unit) :=
  (Triple.emit fun _ _ => h).logs

/-- A computation that may raise. -/
theorem Logs.attempt (h : ∀ e, good (mark e)) (r : Except ε α) :
    Logs good (attempt mark r : Procedure ε σ ω α) :=
  (Triple.attempt h).logs

/-- A procedure with good entries has them from any state. -/
theorem Logs.triple (h : Logs good x) : Triple pre good x fun _ _ => True :=
  h.conseq (fun _ _ => trivial) fun _ _ _ => trivial

/-- A lifted procedure makes the renamed entries. -/
theorem Logs.lift {ω' : Type} {rename : ω' → ω} {y : Procedure ε Unit ω' α}
    (h : ∀ w, good (rename w)) : Logs good (lift rename y : Procedure ε σ ω α) := by
  refine fun s _ => ⟨fun w hw => ?_, fun _ _ => trivial⟩
  obtain ⟨w', -, rfl⟩ := List.mem_map.mp hw
  exact h w'

/-- A procedure that makes good log entries only, and keeps the view of the state, also when it
raises. -/
def Quiet {τ : Type} (view : σ → τ) (good : ω → Prop) (x : Procedure ε σ ω α) : Prop :=
  ∀ s, (∀ w ∈ (x s).log, good w) ∧ view (x s).state = view s

section Quiet

variable {τ : Type} {view : σ → τ}

/-- A quiet procedure makes good entries. -/
theorem Quiet.logs (h : Quiet view good x) : Logs good x :=
  fun s _ => ⟨(h s).1, fun _ _ => trivial⟩

/-- Who keeps the state keeps every view of it. -/
theorem Quiet.of_id (h : Quiet id good x) : Quiet view good x :=
  fun s => ⟨(h s).1, congrArg view (h s).2⟩

/-- A quiet procedure keeps the value of the view. -/
theorem Quiet.triple (h : Quiet view good x) (v : τ) :
    Triple (fun s => view s = v) good x fun _ s => view s = v :=
  fun s hs => ⟨(h s).1, fun _ _ => (h s).2.trans hs⟩

/-- A returned value. -/
theorem Quiet.ret (a : α) : Quiet view good (pure a : Procedure ε σ ω α) :=
  fun _ => ⟨fun _ hw => absurd hw List.not_mem_nil, rfl⟩

/-- A change of the state that keeps the view. -/
theorem Quiet.modify {g : σ → σ} (h : ∀ s, view (g s) = view s) :
    Quiet view good (modify g : Procedure ε σ ω Unit) :=
  fun s => ⟨fun _ hw => absurd hw List.not_mem_nil, h s⟩

/-- An entry. -/
theorem Quiet.emit {w : ω} (h : good w) : Quiet view good (emit w : Procedure ε σ ω Unit) :=
  fun s => ⟨(Logs.emit (ε := ε) h s trivial).1, rfl⟩

/-- A look at the state. -/
theorem Quiet.read : Quiet view good (read : Procedure ε σ ω σ) :=
  fun _ => ⟨fun _ hw => absurd hw List.not_mem_nil, rfl⟩

/-- A computation that may raise. -/
theorem Quiet.attempt (h : ∀ e, good (mark e)) (r : Except ε α) :
    Quiet view good (attempt mark r : Procedure ε σ ω α) := by
  refine fun s => ⟨(Logs.attempt h r s trivial).1, ?_⟩
  cases r <;> rfl

/-- A sequence. -/
theorem Quiet.bind (hx : Quiet view good x) (hf : ∀ a, Quiet view good (f a)) :
    Quiet view good (x >>= f) := by
  refine fun s => ⟨(Logs.bind hx.logs (fun a => (hf a).logs) s trivial).1, ?_⟩
  cases hresult : (x s).result with
  | ok a =>
    rw [bind_of_ok hresult]
    exact (hf a _).2.trans (hx s).2
  | error e =>
    rw [bind_of_error hresult]
    exact (hx s).2

/-- A handled procedure. -/
theorem Quiet.onException (hx : Quiet view good x) (hhandler : ∀ e, Quiet view good (handler e)) :
    Quiet view good (onException x handler) := by
  refine fun s => ⟨(Triple.onException hx.logs (fun e => (hhandler e).logs) s trivial).1, ?_⟩
  cases hresult : (x s).result with
  | ok a =>
    rw [onException_of_ok hresult]
    exact (hx s).2
  | error e =>
    rw [onException_of_error hresult]
    exact (hhandler e _).2.trans (hx s).2

/-- A lifted procedure. -/
theorem Quiet.lift {ω' : Type} {rename : ω' → ω} {y : Procedure ε Unit ω' α}
    (h : ∀ w, good (rename w)) : Quiet view good (lift rename y : Procedure ε σ ω α) :=
  fun s => ⟨(Logs.lift h s trivial).1, rfl⟩

end Quiet

/-- A value that a procedure returns has a property. -/
abbrev Returns (x : Procedure ε σ ω α) (p : α → Prop) : Prop :=
  Triple (fun _ => True) (fun _ => True) x fun a _ => p a

/-- Nothing is known of the value. -/
theorem Returns.any : Returns x fun _ => True :=
  fun _ _ => ⟨fun _ _ => trivial, fun _ _ => trivial⟩

/-- A computation returns its own value. -/
theorem Returns.attempt (r : Except ε α) :
    Returns (attempt mark r : Procedure ε σ ω α) fun a => r = .ok a :=
  (Triple.attempt fun _ => trivial).conseq (fun _ hs => hs) fun _ _ h => h.2

/-- A computation without a log entry returns its own value. -/
theorem Returns.ofExcept (r : Except ε α) :
    Returns (ofExcept r : Procedure ε σ ω α) fun a => r = .ok a :=
  (Triple.ofExcept r).conseq (fun _ hs => hs) fun _ _ h => h.2

/-- A sequence, whose rest may rely on what the first part returns. -/
theorem Triple.bind_of_returns {p : α → Prop} {mid : α → σ → Prop} {post : β → σ → Prop}
    (hx : Triple pre good x mid) (hp : Returns x p)
    (hf : ∀ a, p a → Triple (mid a) good (f a) post) : Triple pre good (x >>= f) post := by
  have hboth : Triple pre good x fun a s => p a ∧ mid a s := fun s hs =>
    ⟨(hx s hs).1, fun a ha => ⟨(hp s trivial).2 a ha, (hx s hs).2 a ha⟩⟩
  exact hboth.bind fun a s ⟨ha, hmid⟩ => hf a ha s hmid

/-- What a sequence returns. -/
theorem Returns.bind {p : α → Prop} {q : β → Prop} (hx : Returns x p)
    (hf : ∀ a, p a → Returns (f a) q) : Returns (x >>= f) q :=
  Triple.bind hx fun a s ha => hf a ha s trivial

/-! ### Logged values -/

/-- A procedure has an entry for every value that it returns. -/
def Vouches (entry : α → ω) (x : Procedure ε σ ω α) : Prop :=
  ∀ s a, (x s).result = .ok a → entry a ∈ (x s).log

/-- The last part of a sequence has the entry. -/
theorem Vouches.bind {entry : β → ω} (hf : ∀ a, Vouches entry (f a)) :
    Vouches entry (x >>= f) := by
  intro s b hb
  cases hresult : (x s).result with
  | ok a =>
    rw [bind_of_ok hresult] at hb ⊢
    exact List.mem_append_right _ (hf a _ b hb)
  | error e =>
    rw [bind_of_error hresult] at hb
    cases hb

end Procedure

end BatchIngestion.Library
