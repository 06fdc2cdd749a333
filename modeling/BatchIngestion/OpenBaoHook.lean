import BatchIngestion.Library.Handlers
import BatchIngestion.Python.Value

/-!
# The OpenBao hook

A hook caches one client. `get_conn` hands out the cached client if it still reports that it is
authenticated, and else logs in with a new client, which takes the place of the cached one only
after it has reported the same. Whatever raises on the way leaves the cached client alone. The
cached client is asked outside of any handler: when its server can no longer be reached, the
question raises, and no login is tried.
-/

namespace BatchIngestion

open Python Library Procedure

/-! ### The hook and its environment -/

/-- `OpenBaoAuthMethod`. -/
inductive OpenBaoAuthMethod
  /-- A static token. -/
  | token
  /-- A user name and a password. -/
  | userpass
  deriving DecidableEq

/-- A method in an f-string, which gives the name of the member. -/
def OpenBaoAuthMethod.formatted : OpenBaoAuthMethod → Text
  | token => "OpenBaoAuthMethod.TOKEN"
  | userpass => "OpenBaoAuthMethod.USERPASS"

/-- A `hvac.Client`. -/
structure HvacClient where
  /-- Which object it is. -/
  serial : ℕ
  /-- `url`. -/
  url : Text
  /-- `token`. -/
  token : Option Text
  deriving DecidableEq

/-- An Airflow connection. -/
structure OpenBaoConnection where
  /-- `host`. -/
  host : Option Text
  /-- `port`. -/
  port : Option ℤ
  /-- `schema`. -/
  schema : Option Text

/-- What the environment contributes to one call of the hook. -/
structure OpenBaoWorld where
  /-- `Variable.get(key, default_var=None)`. -/
  airflowVariable : Text → Except PyExc (Option Text)
  /-- `os.environ`. -/
  environ : Text → Option Text
  /-- `get_connection` in `_resolve_url`. -/
  urlConnection : Except PyExc OpenBaoConnection
  /-- `get_connection` in `_conn_schema`. -/
  schemaConnection : Except PyExc OpenBaoConnection
  /-- `hvac.Client(url=url)`: the token that the constructor finds in the environment. -/
  construct : Text → Except PyExc (Option Text)
  /-- `client.auth.userpass.login` with a user name, a password and a mount: the token. -/
  login : HvacClient → Text → Text → Text → Except PyExc Text
  /-- `client.is_authenticated()`. -/
  isAuthenticated : HvacClient → Except PyExc Bool
  /-- `client.secrets.kv.v2.read_secret_version`. -/
  readSecretVersion : HvacClient → Text → Except PyExc Value

/-- The state of a hook. -/
structure OpenBaoHook where
  /-- `_client`. -/
  client : Option HvacClient
  /-- How many clients have been constructed. -/
  constructed : ℕ

/-- `OpenBaoHook()`. -/
def OpenBaoHook.new : OpenBaoHook where
  client := none
  constructed := 0

/-- What can be seen of a call of the hook. -/
inductive HookEvent
  /-- A step raised. -/
  | raised (error : PyExc)
  /-- `_authenticate` was called. -/
  | authenticating
  /-- A client was asked whether it is authenticated. -/
  | checked (client : HvacClient) (answer : Bool)
  /-- `_authenticate` returned a client. -/
  | authenticated (client : HvacClient)
  /-- A secret is read with a client. -/
  | used (client : HvacClient)
  deriving DecidableEq

/-- A procedure of the hook. -/
abbrev HookAction (α : Type) := Procedure PyExc OpenBaoHook HookEvent α

/-- A step that may raise. -/
def HookAction.step {α : Type} (x : Except PyExc α) : HookAction α :=
  Procedure.attempt .raised x

open HookAction

/-! ### Configuration -/

/-- `_get_var`. -/
def OpenBaoWorld.getVar (world : OpenBaoWorld) (variableKey envFallback : Text) : Text :=
  match world.airflowVariable variableKey with
  | .ok (some value) => value
  | _ => (world.environ envFallback).getD []

/-- `text.split("//")[-1]`, after a part of the last piece. -/
def lastPiece : Text → Text → Text
  | _, '/' :: '/' :: t => lastPiece [] t
  | piece, c :: t => lastPiece (piece ++ [c]) t
  | piece, [] => piece

/-- `_resolve_url`. -/
def OpenBaoWorld.resolveUrl (world : OpenBaoWorld) : Except PyExc Text := do
  let conn ← world.urlConnection
  let host := (conn.host.filter (· ≠ [])).getD "http://localhost"
  match conn.port with
  | some port =>
    if port ≠ 0 ∧ ':' ∉ lastPiece [] host then do
      let port ← intStr port
      return host ++ ':' :: port
    else return host
  | none => return host

/-- `_resolve_auth_method`: a text that is empty or unknown means a token. -/
def OpenBaoWorld.resolveAuthMethod (world : OpenBaoWorld) : OpenBaoAuthMethod :=
  let raw := world.getVar "openbao_auth_method" "OPENBAO_AUTH_METHOD"
  if raw.map Char.toLower = ("userpass" : Text) then .userpass else .token

/-- The mount path of the userpass method. -/
def OpenBaoConnection.mount (conn : OpenBaoConnection) : Text :=
  (conn.schema.filter (· ≠ [])).getD "userpass"

/-! ### The calls -/

/-- `client.is_authenticated()`. -/
def checkClient (world : OpenBaoWorld) (client : HvacClient) : HookAction Bool := do
  let answer ← step (world.isAuthenticated client)
  emit (.checked client answer)
  return answer

/-- `hvac.Client(url=url)`. -/
def newClient (world : OpenBaoWorld) (url : Text) : HookAction HvacClient := do
  let token ← step (world.construct url)
  let hook ← read
  modify fun hook => { hook with constructed := hook.constructed + 1 }
  return { serial := hook.constructed, url, token }

/-- `_auth_token`. -/
def authToken (world : OpenBaoWorld) (client : HvacClient) : HookAction HvacClient := do
  let token := world.getVar "openbao_token" "OPENBAO_TOKEN"
  step (if token = [] then .error (.runtimeError
    (("Token auth requires the Airflow Variable 'openbao_token' " : Text) ++
      ("or the OPENBAO_TOKEN environment variable to be set." : Text))) else .ok ())
  return { client with token := some token }

/-- `_auth_userpass`. -/
def authUserpass (world : OpenBaoWorld) (client : HvacClient) : HookAction HvacClient := do
  let username := world.getVar "openbao_username" "OPENBAO_USERNAME"
  let password := world.getVar "openbao_password" "OPENBAO_PASSWORD"
  let conn ← step world.schemaConnection
  step (if username = [] ∨ password = [] then .error (.runtimeError
    (("Userpass auth requires the Airflow Variables 'openbao_username' " : Text) ++
      ("and 'openbao_password' (or their OPENBAO_USERNAME / " : Text) ++
      ("OPENBAO_PASSWORD environment variable fallbacks) to be set." : Text))) else .ok ())
  let token ← step (world.login client username password conn.mount)
  return { client with token := some token }

/-- The login of `_authenticate`, by its method. -/
def signIn (world : OpenBaoWorld) (client : HvacClient) : HookAction HvacClient :=
  match world.resolveAuthMethod with
  | .token => authToken world client
  | .userpass => authUserpass world client

/-- The last check of `_authenticate`. -/
def confirmClient (world : OpenBaoWorld) (url : Text) (client : HvacClient) :
    HookAction HvacClient := do
  let valid ← checkClient world client
  step (if valid then .ok () else .error (.runtimeError
    (("OpenBao authentication failed using method '" : Text) ++
      world.resolveAuthMethod.formatted ++ ("' at '" : Text) ++ url ++ ['\''])))
  return client

/-- `_authenticate`. -/
def authenticate (world : OpenBaoWorld) : HookAction HvacClient := do
  emit .authenticating
  let url ← step world.resolveUrl
  let client ← newClient world url
  let client ← signIn world client
  confirmClient world url client

/-- Log in, and cache the new client. -/
def renewClient (world : OpenBaoWorld) : HookAction HvacClient := do
  let client ← authenticate world
  emit (.authenticated client)
  modify fun hook => { hook with client := some client }
  return client

/-- `get_conn`. -/
def getConn (world : OpenBaoWorld) : HookAction HvacClient := do
  let hook ← read
  match hook.client with
  | some client => do
    let valid ← checkClient world client
    if valid then return client else renewClient world
  | none => renewClient world

/-- `get_secret`. -/
def getSecret (world : OpenBaoWorld) (secretPath : Text) : HookAction Value := do
  let client ← getConn world
  emit (.used client)
  let response ← step (world.readSecretVersion client secretPath)
  let data ← step (response.item "data")
  step (data.item "data")

/-! ### One call -/

section Call

variable {world : OpenBaoWorld} {hook : OpenBaoHook} {client : HvacClient}

/-- A check that is answered. -/
theorem checkClient_of_ok {answer : Bool} (h : world.isAuthenticated client = .ok answer) :
    checkClient world client hook = ⟨.ok answer, hook, [.checked client answer]⟩ := by
  rw [checkClient, h]
  rfl

/-- A check that raises. -/
theorem checkClient_of_error {e : PyExc} (h : world.isAuthenticated client = .error e) :
    checkClient world client hook = ⟨.error e, hook, [.raised e]⟩ := by
  rw [checkClient, h]
  rfl

/-- A client that is confirmed has passed the check. -/
theorem vouches_confirmClient (url : Text) :
    Vouches (fun c => HookEvent.checked c true) (confirmClient world url client) := by
  intro s c hc
  unfold confirmClient at hc ⊢
  cases hanswer : world.isAuthenticated client with
  | error e =>
    rw [bind_of_error (congrArg Outcome.result (checkClient_of_error hanswer))] at hc
    cases hc
  | ok answer =>
    have hcheck : checkClient world client s = _ := checkClient_of_ok hanswer
    rw [bind_of_ok (congrArg Outcome.result hcheck), hcheck] at hc ⊢
    cases answer with
    | false => cases hc
    | true =>
      obtain rfl := Except.ok.inj hc
      exact List.mem_cons_self

/-- `_authenticate` returns clients that have passed the check. -/
theorem vouches_authenticate :
    Vouches (fun c => HookEvent.checked c true) (authenticate world) :=
  Vouches.bind fun _ => Vouches.bind fun url => Vouches.bind fun _ => Vouches.bind fun _ =>
    vouches_confirmClient url

/-- `_authenticate` keeps the cached client, and neither caches nor uses another one. -/
theorem quiet_authenticate :
    Quiet OpenBaoHook.client (fun w => ∀ c, w ≠ .authenticated c ∧ w ≠ .used c)
      (authenticate world) := by
  have hraised (e : PyExc) : ∀ c, HookEvent.raised e ≠ .authenticated c ∧
      HookEvent.raised e ≠ .used c := fun c => ⟨fun h => (by cases h), fun h => by cases h⟩
  refine (Quiet.emit fun c => ⟨fun h => (by cases h), fun h => by cases h⟩).bind fun _ => ?_
  refine (Quiet.attempt hraised _).bind fun url => Quiet.bind ?_ fun client => ?_
  · refine (Quiet.attempt hraised _).bind fun token => Quiet.read.bind fun hook => ?_
    exact Quiet.bind (.modify fun _ => rfl) fun _ => .ret _
  · refine Quiet.bind ?_ fun client => ?_
    · unfold signIn
      split
      · exact (Quiet.attempt hraised _).bind fun _ => .ret _
      · refine (Quiet.attempt hraised _).bind fun conn => (Quiet.attempt hraised _).bind fun _ => ?_
        exact (Quiet.attempt hraised _).bind fun _ => .ret _
    · refine Quiet.bind ?_ fun valid => (Quiet.attempt hraised _).bind fun _ => .ret _
      refine (Quiet.attempt hraised _).bind fun answer => ?_
      exact (Quiet.emit fun c => ⟨fun h => (by cases h), fun h => by cases h⟩).bind fun _ => .ret _

/-- A call of `get_conn` raises, with the cached client as it was. -/
structure Fails (hook : OpenBaoHook) (o : Outcome PyExc OpenBaoHook HookEvent HvacClient) :
    Prop where
  /-- It raises. -/
  raises : ∃ e, o.result = .error e
  /-- The cached client stays. -/
  keeps : o.state.client = hook.client
  /-- No other client was authenticated, and none was used. -/
  quiet : ∀ w ∈ o.log, ∀ c, w ≠ .authenticated c ∧ w ≠ .used c

/-- A call of `get_conn` returns a new client that has passed the check. -/
structure Renews (client : HvacClient) (o : Outcome PyExc OpenBaoHook HookEvent HvacClient) :
    Prop where
  /-- It returns the client. -/
  returns : o.result = .ok client
  /-- The client has passed the check. -/
  checked : .checked client true ∈ o.log
  /-- The client was authenticated. -/
  authenticated : .authenticated client ∈ o.log
  /-- No client was used. -/
  unused : ∀ c, .used c ∉ o.log

/-- A renewal fails or renews. -/
theorem renewClient_cases (world : OpenBaoWorld) (hook : OpenBaoHook) :
    Fails hook (renewClient world hook) ∨ ∃ client, Renews client (renewClient world hook) := by
  obtain ⟨hquiet, hkeeps⟩ := @quiet_authenticate world hook
  cases hresult : (authenticate world hook).result with
  | error e =>
    rw [renewClient, bind_of_error hresult]
    exact .inl ⟨⟨e, rfl⟩, hkeeps, hquiet⟩
  | ok client =>
    have hchecked := vouches_authenticate hook client hresult
    rw [renewClient, bind_of_ok hresult]
    refine .inr ⟨client, rfl, List.mem_append_left _ hchecked,
      List.mem_append_right _ List.mem_cons_self, fun c hc => ?_⟩
    rcases List.mem_append.mp hc with hc | hc
    · exact (hquiet _ hc c).2 rfl
    · cases List.mem_singleton.mp hc

/-- The cached client still reports that it is authenticated. -/
def OpenBaoHook.Holds (hook : OpenBaoHook) (world : OpenBaoWorld) (client : HvacClient) : Prop :=
  hook.client = some client ∧ world.isAuthenticated client = .ok true

/-- `get_conn` by the cached client. -/
theorem getConn_eq (world : OpenBaoWorld) (hook : OpenBaoHook) : getConn world hook =
    hook.client.elim (renewClient world hook) fun client =>
      (checkClient world client >>= fun valid =>
        if valid then pure client else renewClient world) hook := by
  cases hook with
  | mk client constructed => cases client <;> rfl

/-- A valid client is returned after its check. -/
theorem getConn_of_holds (h : hook.Holds world client) :
    getConn world hook = ⟨.ok client, hook, [.checked client true]⟩ := by
  have hcheck : checkClient world client hook = _ := checkClient_of_ok h.2
  rw [getConn_eq, h.1, Option.elim_some, bind_of_ok (congrArg Outcome.result hcheck), hcheck]
  rfl

/-- Without a cached client, `get_conn` is a renewal. -/
theorem getConn_of_none (h : hook.client = none) : getConn world hook = renewClient world hook := by
  rw [getConn_eq, h, Option.elim_none]

/-- After a client that is no longer valid, `get_conn` is a renewal. -/
theorem getConn_of_expired (hclient : hook.client = some client)
    (h : world.isAuthenticated client = .ok false) :
    getConn world hook = ⟨(renewClient world hook).result, (renewClient world hook).state,
      .checked client false :: (renewClient world hook).log⟩ := by
  have hcheck : checkClient world client hook = _ := checkClient_of_ok h
  rw [getConn_eq, hclient, Option.elim_some, bind_of_ok (congrArg Outcome.result hcheck), hcheck]
  rfl

/-- A check that raises ends `get_conn`. -/
theorem getConn_of_error (hclient : hook.client = some client) {e : PyExc}
    (h : world.isAuthenticated client = .error e) :
    getConn world hook = ⟨.error e, hook, [.raised e]⟩ := by
  have hcheck : checkClient world client hook = _ := checkClient_of_error h
  rw [getConn_eq, hclient, Option.elim_some, bind_of_error (congrArg Outcome.result hcheck), hcheck]

/-- **What `get_conn` does**: it returns the valid client that it holds, or it raises and keeps
what it holds, or it returns a new client. -/
theorem getConn_cases (world : OpenBaoWorld) (hook : OpenBaoHook) :
    (∃ client, hook.Holds world client) ∨
      (∀ client, ¬hook.Holds world client) ∧
        (Fails hook (getConn world hook) ∨ ∃ client, Renews client (getConn world hook)) := by
  cases hclient : hook.client with
  | none =>
    refine .inr ⟨fun c h => ?_, ?_⟩
    · cases hclient.symm.trans h.1
    · rw [getConn_of_none hclient]
      exact renewClient_cases world hook
  | some cached =>
    have hcached {c : HvacClient} (h : hook.Holds world c) : c = cached :=
      Option.some.inj (h.1.symm.trans hclient)
    cases hanswer : world.isAuthenticated cached with
    | error e =>
      refine .inr ⟨fun c h => ?_, .inl ?_⟩
      · cases (hcached h ▸ h.2).symm.trans hanswer
      · rw [getConn_of_error hclient hanswer]
        refine ⟨⟨e, rfl⟩, rfl, fun w hw c => ?_⟩
        obtain rfl := List.mem_singleton.mp hw
        exact ⟨fun h => (by cases h), fun h => by cases h⟩
    | ok answer =>
      cases answer with
      | true => exact .inl ⟨cached, hclient, hanswer⟩
      | false =>
        refine .inr ⟨fun c h => ?_, ?_⟩
        · cases (hcached h ▸ h.2).symm.trans hanswer
        · rw [getConn_of_expired hclient hanswer]
          refine (renewClient_cases world hook).imp (fun h => ?_) fun ⟨c, h⟩ => ⟨c, ?_⟩
          · refine ⟨h.raises, h.keeps, List.forall_mem_cons.mpr ⟨fun c => ?_, h.quiet⟩⟩
            exact ⟨fun h => (by cases h), fun h => by cases h⟩
          · refine ⟨h.returns, List.mem_cons_of_mem _ h.checked,
              List.mem_cons_of_mem _ h.authenticated, fun c' hc' => ?_⟩
            rcases List.mem_cons.mp hc' with hc' | hc'
            · cases hc'
            · exact h.unused c' hc'

/-- Without a client, no secret is read. -/
theorem getSecret_of_error {e : PyExc} (h : (getConn world hook).result = .error e) (path : Text) :
    getSecret world path hook = ⟨.error e, (getConn world hook).state, (getConn world hook).log⟩ :=
  bind_of_error h

/-- With a client, a secret is read, which changes nothing. -/
theorem getSecret_of_ok (h : (getConn world hook).result = .ok client) (path : Text) :
    ∃ rest, (getSecret world path hook).log =
        (getConn world hook).log ++ .used client :: rest ∧
      (getSecret world path hook).state = (getConn world hook).state ∧
      ∀ w ∈ rest, ∃ e, w = .raised e := by
  have hrest : Quiet id (fun w => ∃ e, w = HookEvent.raised e) (do
      let response ← step (world.readSecretVersion client path)
      let data ← step (response.item "data")
      step (data.item "data")) :=
    (Quiet.attempt (fun e => ⟨e, rfl⟩) _).bind fun _ =>
      (Quiet.attempt (fun e => ⟨e, rfl⟩) _).bind fun _ => .attempt (fun e => ⟨e, rfl⟩) _
  obtain ⟨hlog, hstate⟩ := hrest (getConn world hook).state
  rw [getSecret, bind_of_ok h, bind_of_ok (a := ()) rfl]
  exact ⟨_, rfl, hstate, hlog⟩

/-- A secret is read with the client of `get_conn` and with no other one. -/
theorem eq_of_used_getSecret {path : Text} {other : HvacClient}
    (h : (getConn world hook).result = .ok client)
    (hunused : ∀ c, .used c ∉ (getConn world hook).log)
    (hother : .used other ∈ (getSecret world path hook).log) : other = client := by
  obtain ⟨rest, hlog, -, hrest⟩ := getSecret_of_ok h path
  rw [hlog] at hother
  rcases List.mem_append.mp hother with hconn | hother
  · exact absurd hconn (hunused other)
  · rcases List.mem_cons.mp hother with hother | hother
    · exact HookEvent.used.inj hother
    · obtain ⟨e, he⟩ := hrest _ hother
      cases he

/-- With a valid client, a secret is read without a login. -/
theorem getSecret_of_holds (h : hook.Holds world client) (path : Text) :
    ∃ rest, (getSecret world path hook).log = .checked client true :: .used client :: rest ∧
      (getSecret world path hook).state = hook ∧ ∀ w ∈ rest, ∃ e, w = .raised e := by
  have hconn := getConn_of_holds h
  obtain ⟨rest, hlog, hstate, hrest⟩ := getSecret_of_ok (congrArg Outcome.result hconn) path
  rw [hconn] at hlog hstate
  exact ⟨rest, hlog, hstate, hrest⟩

/-! ### Recovery -/

/-- The configured credentials give a client a token. -/
def OpenBaoWorld.Issues (world : OpenBaoWorld) (client : HvacClient) (token : Text) : Prop :=
  match world.resolveAuthMethod with
  | .token => world.getVar "openbao_token" "OPENBAO_TOKEN" = token ∧ token ≠ []
  | .userpass =>
    world.getVar "openbao_username" "OPENBAO_USERNAME" ≠ [] ∧
      world.getVar "openbao_password" "OPENBAO_PASSWORD" ≠ [] ∧
      ∃ conn, world.schemaConnection = .ok conn ∧
        world.login client (world.getVar "openbao_username" "OPENBAO_USERNAME")
          (world.getVar "openbao_password" "OPENBAO_PASSWORD") conn.mount = .ok token

/-- The backend can be reached, and accepts the configured credentials: a token is issued, and a
client with the token is authenticated. -/
def OpenBaoWorld.Accepts (world : OpenBaoWorld) : Prop :=
  ∃ url ambient, world.resolveUrl = .ok url ∧ world.construct url = .ok ambient ∧
    ∀ serial, ∃ token, world.Issues ⟨serial, url, ambient⟩ token ∧
      world.isAuthenticated ⟨serial, url, some token⟩ = .ok true

/-- A cached client that is asked whether it is authenticated gives an answer. -/
def OpenBaoHook.Answered (hook : OpenBaoHook) (world : OpenBaoWorld) : Prop :=
  ∀ client, hook.client = some client → ∃ answer, world.isAuthenticated client = .ok answer

/-- A token that is issued is set on the client. -/
theorem signIn_of_issues {token : Text} (h : world.Issues client token) :
    signIn world client hook = ⟨.ok { client with token := some token }, hook, []⟩ := by
  unfold OpenBaoWorld.Issues at h
  unfold signIn
  split at h
  · rename_i hmethod
    obtain ⟨rfl, hne⟩ := h
    rw [hmethod]
    dsimp only
    rw [authToken, if_neg hne]
    rfl
  · rename_i hmethod
    obtain ⟨husername, hpassword, conn, hconn, hlogin⟩ := h
    rw [hmethod]
    dsimp only
    rw [authUserpass, if_neg (not_or.mpr ⟨husername, hpassword⟩), hconn,
      bind_of_ok (a := conn) rfl, bind_of_ok (a := ()) rfl, hlogin]
    rfl

/-- A backend that accepts the credentials lets `_authenticate` through. -/
theorem authenticate_of_accepts (h : world.Accepts) (hook : OpenBaoHook) :
    ∃ client, (authenticate world hook).result = .ok client := by
  obtain ⟨url, ambient, hurl, hconstruct, haccepts⟩ := h
  obtain ⟨token, hissues, hvalid⟩ := haccepts hook.constructed
  have hnew : newClient world url hook = ⟨.ok ⟨hook.constructed, url, ambient⟩,
      { hook with constructed := hook.constructed + 1 }, []⟩ := by
    rw [newClient, hconstruct]
    rfl
  refine ⟨⟨hook.constructed, url, some token⟩, ?_⟩
  rw [authenticate, bind_of_ok (a := ()) rfl, hurl, bind_of_ok (a := url) rfl]
  change ((newClient world url >>= fun client =>
    signIn world client >>= confirmClient world url) hook).result = _
  rw [bind_of_ok (congrArg Outcome.result hnew), hnew]
  have hsign : signIn world _ { hook with constructed := hook.constructed + 1 } = _ :=
    signIn_of_issues hissues
  rw [bind_of_ok (congrArg Outcome.result hsign), hsign, confirmClient]
  have hcheck : checkClient world _ { hook with constructed := hook.constructed + 1 } = _ :=
    checkClient_of_ok hvalid
  rw [bind_of_ok (congrArg Outcome.result hcheck), hcheck]
  rfl

/-- **A backend that accepts the credentials lets `get_conn` through**, unless asking the cached
client raises. -/
theorem getConn_of_accepts (h : world.Accepts) (hanswered : hook.Answered world) :
    ∃ client, (getConn world hook).result = .ok client := by
  obtain ⟨client, hclient⟩ := authenticate_of_accepts h hook
  have hrenew : (renewClient world hook).result = .ok client := by
    rw [renewClient, bind_of_ok hclient]
    rfl
  cases hcached : hook.client with
  | none => exact ⟨client, by rw [getConn_of_none hcached, hrenew]⟩
  | some cached =>
    obtain ⟨answer, hanswer⟩ := hanswered cached hcached
    cases answer with
    | true => exact ⟨cached, by rw [getConn_of_holds ⟨hcached, hanswer⟩]⟩
    | false => exact ⟨client, by rw [getConn_of_expired hcached hanswer, hrenew]⟩

/-- A call of `get_conn` that returns has had its answer from the cached client. -/
theorem answered_of_getConn (h : (getConn world hook).result = .ok client) :
    hook.Answered world := by
  intro cached hcached
  cases hanswer : world.isAuthenticated cached with
  | ok answer => exact ⟨answer, rfl⟩
  | error e =>
    rw [getConn_of_error hcached hanswer] at h
    cases h

end Call

/-! ### Any number of calls -/

/-- The calls of a hook. -/
inductive HookCall
  /-- `get_conn()`. -/
  | conn
  /-- `get_secret(secret_path)`. -/
  | secret (secretPath : Text)

/-- What a call returns. -/
inductive HookResult
  /-- The client of `get_conn`. -/
  | client (client : HvacClient)
  /-- The secret of `get_secret`. -/
  | secret (value : Value)

/-- One call. -/
def HookCall.run (world : OpenBaoWorld) : HookCall → HookAction HookResult
  | .conn => do
    let client ← getConn world
    return .client client
  | .secret secretPath => do
    let value ← getSecret world secretPath
    return .secret value

/-- A call in a history. -/
structure HookStep where
  /-- The environment. -/
  world : OpenBaoWorld
  /-- The hook before the call. -/
  before : OpenBaoHook
  /-- What the call did. -/
  outcome : Outcome PyExc OpenBaoHook HookEvent HookResult

/-- The history of calls on one hook, each in its own environment. -/
def OpenBaoHook.history : OpenBaoHook → List (HookCall × OpenBaoWorld) → List HookStep
  | _, [] => []
  | hook, (call, world) :: calls =>
    ⟨world, hook, call.run world hook⟩ :: history (call.run world hook).state calls

/-- The hook after calls. -/
def OpenBaoHook.after (hook : OpenBaoHook) (calls : List (HookCall × OpenBaoWorld)) : OpenBaoHook :=
  calls.foldl (fun hook (call, world) => (call.run world hook).state) hook

/-- Calls after other calls. -/
theorem OpenBaoHook.after_append (hook : OpenBaoHook)
    (calls later : List (HookCall × OpenBaoWorld)) :
    hook.after (calls ++ later) = (hook.after calls).after later :=
  List.foldl_append

namespace HookStep

/-- The call returns a client, or uses it. -/
def Hands (s : HookStep) (client : HvacClient) : Prop :=
  s.outcome.result = .ok (.client client) ∨ .used client ∈ s.outcome.log

/-- What a call owes to its caller. -/
structure Safe (s : HookStep) : Prop where
  /-- A client that is handed out has reported that it is authenticated. -/
  checked : ∀ client, s.Hands client → .checked client true ∈ s.outcome.log
  /-- A valid client is handed out again, without a login. -/
  reused : ∀ client, s.before.Holds s.world client →
    s.Hands client ∧ .authenticating ∉ s.outcome.log ∧ s.outcome.state = s.before
  /-- A login that fails raises, and keeps the cached client. -/
  failed : .authenticating ∈ s.outcome.log → (∀ client, .authenticated client ∉ s.outcome.log) →
    (∃ e, s.outcome.result = .error e) ∧ s.outcome.state.client = s.before.client

end HookStep

/-- A call of `get_conn` is safe. -/
theorem HookCall.safe_conn (world : OpenBaoWorld) (hook : OpenBaoHook) :
    HookStep.Safe ⟨world, hook, HookCall.conn.run world hook⟩ := by
  have hrun : HookCall.conn.run world hook = ⟨(getConn world hook).result.map .client,
      (getConn world hook).state, (getConn world hook).log⟩ := bind_pure_eq _ _
  rw [hrun]
  rcases getConn_cases world hook with ⟨c, hholds⟩ | ⟨hnot, hfails | ⟨c, hrenews⟩⟩
  · rw [getConn_of_holds hholds]
    refine ⟨fun c' h => ?_, fun c' h => ?_, fun h => ?_⟩
    · rcases h with h | h
      · obtain rfl := HookResult.client.inj (Except.ok.inj h)
        exact List.mem_cons_self
      · cases List.mem_singleton.mp h
    · obtain rfl := Option.some.inj (h.1.symm.trans hholds.1)
      exact ⟨.inl rfl, fun h => (by cases List.mem_singleton.mp h), rfl⟩
    · cases List.mem_singleton.mp h
  · obtain ⟨e, he⟩ := hfails.raises
    rw [he]
    refine ⟨fun c' h => ?_, fun c' h => absurd h (hnot c'), fun _ _ => ⟨⟨e, rfl⟩, hfails.keeps⟩⟩
    rcases h with h | h
    · cases h
    · exact absurd rfl (hfails.quiet _ h c').2
  · rw [hrenews.returns]
    refine ⟨fun c' h => ?_, fun c' h => absurd h (hnot c'),
      fun _ h => absurd hrenews.authenticated (h c)⟩
    rcases h with h | h
    · obtain rfl := HookResult.client.inj (Except.ok.inj h)
      exact hrenews.checked
    · exact absurd h (hrenews.unused c')

/-- A call of `get_secret` is safe. -/
theorem HookCall.safe_secret (world : OpenBaoWorld) (hook : OpenBaoHook) (path : Text) :
    HookStep.Safe ⟨world, hook, (HookCall.secret path).run world hook⟩ := by
  have hrun : (HookCall.secret path).run world hook =
      ⟨(getSecret world path hook).result.map .secret,
        (getSecret world path hook).state, (getSecret world path hook).log⟩ := bind_pure_eq _ _
  have hresult (c : HvacClient) :
      (getSecret world path hook).result.map HookResult.secret ≠ .ok (.client c) := by
    cases (getSecret world path hook).result <;> exact fun h => by cases h
  rw [hrun]
  rcases getConn_cases world hook with ⟨c, hholds⟩ | ⟨hnot, hfails | ⟨c, hrenews⟩⟩
  · obtain ⟨rest, hlog, hstate, hrest⟩ := getSecret_of_holds hholds path
    have hentry {w : HookEvent} (hw : w ∈ (getSecret world path hook).log) :
        w = .checked c true ∨ w = .used c ∨ ∃ e, w = .raised e := by
      rw [hlog] at hw
      exact (List.mem_cons.mp hw).imp_right fun hw => (List.mem_cons.mp hw).imp_right (hrest w)
    have hlogin : .authenticating ∉ (getSecret world path hook).log := by
      intro h
      rcases hentry h with h | h | ⟨e, h⟩ <;> cases h
    refine ⟨fun c' h => ?_, fun c' h => ?_, fun h => absurd h hlogin⟩
    · rcases hentry (h.resolve_left (hresult c')) with h | h | ⟨e, h⟩
      · cases h
      · obtain rfl := HookEvent.used.inj h
        rw [hlog]
        exact List.mem_cons_self
      · cases h
    · obtain rfl := Option.some.inj (h.1.symm.trans hholds.1)
      refine ⟨.inr ?_, hlogin, hstate⟩
      rw [hlog]
      exact List.mem_cons_of_mem _ List.mem_cons_self
  · obtain ⟨e, he⟩ := hfails.raises
    rw [getSecret_of_error he path]
    refine ⟨fun c' h => ?_, fun c' h => absurd h (hnot c'), fun _ _ => ⟨⟨e, rfl⟩, hfails.keeps⟩⟩
    rcases h with h | h
    · cases h
    · exact absurd rfl (hfails.quiet _ h c').2
  · obtain ⟨rest, hlog, -, -⟩ := getSecret_of_ok hrenews.returns path
    refine ⟨fun c' h => ?_, fun c' h => absurd h (hnot c'), fun _ h => absurd ?_ (h c)⟩
    · obtain rfl :=
        eq_of_used_getSecret hrenews.returns hrenews.unused (h.resolve_left (hresult c'))
      rw [hlog]
      exact List.mem_append_left _ hrenews.checked
    · rw [hlog]
      exact List.mem_append_left _ hrenews.authenticated

/-- **Every call is safe.** -/
theorem HookCall.safe_run (call : HookCall) (world : OpenBaoWorld) (hook : OpenBaoHook) :
    HookStep.Safe ⟨world, hook, call.run world hook⟩ := by
  cases call with
  | conn => exact safe_conn world hook
  | secret path => exact safe_secret world hook path

/-- Every call of a history is safe. -/
theorem OpenBaoHook.safe_of_mem_history {hook : OpenBaoHook}
    {calls : List (HookCall × OpenBaoWorld)} : ∀ s ∈ hook.history calls, s.Safe := by
  induction calls generalizing hook with
  | nil => exact fun s hs => absurd hs List.not_mem_nil
  | cons c calls ih =>
    obtain ⟨call, world⟩ := c
    exact List.forall_mem_cons.mpr ⟨call.safe_run world hook, ih⟩

/-- A cached client that cannot be asked stays: however often `get_conn` is called, it raises. -/
theorem getConn_replicate_of_error {world : OpenBaoWorld} {hook : OpenBaoHook} {client : HvacClient}
    {e : PyExc} (hclient : hook.client = some client) (h : world.isAuthenticated client = .error e)
    (n : ℕ) : (getConn world (hook.after (List.replicate n (.conn, world)))).result = .error e := by
  have hconn := getConn_of_error hclient h
  have hafter : hook.after (List.replicate n (.conn, world)) = hook := by
    induction n with
    | zero => rfl
    | succ n ih =>
      have hrun : (HookCall.conn.run world hook).state = hook := by
        rw [HookCall.run, bind_of_error (congrArg Outcome.result hconn), hconn]
      calc hook.after (List.replicate (n + 1) (.conn, world))
          = (HookCall.conn.run world hook).state.after (List.replicate n (.conn, world)) := rfl
        _ = hook := by rw [hrun, ih]
  rw [hafter, hconn]

/-- **The hook never hands out a dead client**, and it recovers from whatever failed before if and
only if its cached client can be asked. Every call of a history is safe, and when the backend
accepts the credentials after it, `get_conn` succeeds if and only if there is no cached client or
the question whether it is authenticated is answered. -/
theorem openBaoHook_recovers_iff (calls : List (HookCall × OpenBaoWorld)) :
    (∀ s ∈ OpenBaoHook.new.history calls, s.Safe) ∧
      ∀ world : OpenBaoWorld, world.Accepts →
        ((∃ client, (getConn world (OpenBaoHook.new.after calls)).result = .ok client) ↔
          (OpenBaoHook.new.after calls).Answered world) :=
  ⟨OpenBaoHook.safe_of_mem_history, fun _ haccepts =>
    ⟨fun ⟨_, hclient⟩ => answered_of_getConn hclient, getConn_of_accepts haccepts⟩⟩

/-- A backend at a host, a static token for it, and its answers to its clients. -/
def staticToken (host token : Text) (answers : HvacClient → Except PyExc Bool) : OpenBaoWorld where
  airflowVariable key := .ok (if key = "openbao_token" then some token else none)
  environ _ := none
  urlConnection := .ok { host := some host, port := some 8200, schema := none }
  schemaConnection := .error (.external "no connection")
  construct _ := .ok none
  login _ _ _ _ := .error (.external "permission denied")
  isAuthenticated := answers
  readSecretVersion _ _ := .error (.external "permission denied")

/-- A static token is accepted if the clients that have it are. -/
theorem accepts_staticToken {host token : Text} {answers : HvacClient → Except PyExc Bool}
    (url : Text) (htoken : token ≠ [])
    (hurl : (staticToken host token answers).resolveUrl = .ok url)
    (hanswers : ∀ serial, answers ⟨serial, url, some token⟩ = .ok true) :
    (staticToken host token answers).Accepts := by
  have hvar (key env : Text) : (staticToken host token answers).getVar key env =
      if key = "openbao_token" then token else [] := by
    unfold OpenBaoWorld.getVar staticToken
    dsimp only
    split_ifs <;> rfl
  have hmethod : (staticToken host token answers).resolveAuthMethod = .token := by
    have hkey : ("openbao_auth_method" : Text) ≠ "openbao_token" := by decide +kernel
    have hempty : ([] : Text) ≠ "userpass" := by decide +kernel
    rw [OpenBaoWorld.resolveAuthMethod, hvar, if_neg hkey]
    exact if_neg hempty
  refine ⟨url, none, hurl, rfl, fun serial => ⟨token, ?_, hanswers serial⟩⟩
  rw [OpenBaoWorld.Issues, hmethod]
  exact ⟨(hvar _ _).trans (if_pos rfl), htoken⟩

/-- After the first token has expired and a login was rejected, the next call logs in with the
second token. -/
theorem openBaoHook_recovers_expiredClient :
    ∃ client, (getConn
      (staticToken "http://openbao" "s.second" fun c => .ok (c.token = some "s.second".toList))
      (OpenBaoHook.new.after [(.conn, staticToken "http://openbao" "s.first" fun _ => .ok true),
        (.secret "data-processor/postgres", staticToken "http://openbao" "s.second" fun _ =>
          .ok false)])).result = .ok client := by
  refine ((openBaoHook_recovers_iff _).2 _ (accepts_staticToken "http://openbao:8200"
    (by decide +kernel) (by decide +kernel) fun _ => ?_)).mpr fun _ _ => ⟨_, rfl⟩
  exact congrArg Except.ok (decide_eq_true rfl)

/-- The backend has moved: only the clients of its new server are answered. -/
def movedServer : OpenBaoWorld :=
  staticToken "http://openbao-2" "s.token" fun client =>
    if client.url = "http://openbao-2:8200" then .ok true
    else .error (.external "connection refused")

/-- The backend accepts the credentials, and yet `get_conn` fails, as it did the time before: it
asks the client of the old server first. -/
theorem openBaoHook_stuck_movedServer :
    movedServer.Accepts ∧
      (getConn movedServer (OpenBaoHook.new.after
        [(.conn, staticToken "http://openbao" "s.token" fun _ => .ok true),
          (.conn, movedServer)])).result = .error (.external "connection refused") := by
  have hfirst : (OpenBaoHook.new.after
      [(.conn, staticToken "http://openbao" "s.token" fun _ => .ok true)]).client =
        some ⟨0, "http://openbao:8200", some "s.token".toList⟩ := by decide +kernel
  have hanswer : movedServer.isAuthenticated ⟨0, "http://openbao:8200", some "s.token".toList⟩ =
      .error (.external "connection refused") := by decide +kernel
  constructor
  · exact accepts_staticToken "http://openbao-2:8200" (by decide +kernel) (by decide +kernel)
      fun _ => if_pos rfl
  · have hstuck := getConn_replicate_of_error hfirst hanswer 1
    rw [← OpenBaoHook.after_append] at hstuck
    exact hstuck

end BatchIngestion
