import BatchIngestion.Registration

/-!
# A round of the registration loop

A round that completes has done one of four things: it made no DAG, made one that it could not
store, stored one without learning its status, or registered it. Each of them depends on
which names are bound to DAGs, and the handler deletes `exc` in all but the last.
-/

namespace BatchIngestion

open Python Library Procedure LoopAction

/-! ### Namespaces of a round -/

namespace LoopNamespace

/-- The namespace of a round: the loop variable is bound. -/
def enter (ns : LoopNamespace) (file : ConfigFile) : LoopNamespace :=
  Function.update ns "_config_file" (some (.file file))

/-- The namespace after `_dag` is bound. -/
def keep (ns : LoopNamespace) (dag : DagObject) : LoopNamespace :=
  Function.update ns "_dag" (some (.dag dag))

/-- The namespace after a DAG is bound to its `dag_id`. -/
def store (ns : LoopNamespace) (dag : DagObject) : LoopNamespace :=
  Function.update (ns.keep dag) dag.arguments.dagId (some (.dag dag))

/-- The names that the handler needs. -/
structure Handles (ns : LoopNamespace) : Prop where
  /-- `Exception` is an exception. -/
  exception : ns.Clear "Exception"
  /-- `log` is a logger. -/
  log : ns.Clear "log"

variable {ns : LoopNamespace} {dag : DagObject}

/-- A binding of another name. -/
theorem clear_update_of_ne {name other : Text} {object : Option LoopObject} (h : name ≠ other) :
    Clear (Function.update ns other object) name ↔ ns.Clear name := by
  simp [Clear, Function.update_of_ne h]

/-- A stored DAG is bound to its `dag_id`. -/
theorem store_dagId : ns.store dag dag.arguments.dagId = some (.dag dag) :=
  Function.update_self ..

/-- A DAG stored under another name than `_config_file` leaves the loop variable. -/
theorem store_configFile (hid : dag.arguments.dagId ≠ "_config_file") :
    ns.store dag "_config_file" = ns "_config_file" := by
  rw [store, Function.update_of_ne (Ne.symm hid), keep, Function.update_of_ne (by decide)]

/-- A DAG stored as `_config_file` takes the place of the loop variable. -/
theorem ne_configFile_of_store {other : ConfigFile}
    (hother : ns.store dag "_config_file" = some (.file other)) :
    dag.arguments.dagId ≠ "_config_file" := by
  intro hid
  rw [← hid, store_dagId] at hother
  cases hother

/-- The loop variable has a name exactly when it is a file. -/
theorem exists_configFileName_iff :
    (∃ name, ns.configFileName = .ok name) ↔ ∃ file, ns "_config_file" = some (.file file) := by
  rw [configFileName]
  split
  · rename_i file hfile
    exact iff_of_true ⟨_, rfl⟩ ⟨file, hfile⟩
  · rename_i h
    exact iff_of_false (fun ⟨_, h⟩ => by cases h) fun ⟨file, hfile⟩ => h file hfile

end LoopNamespace

open LoopNamespace

variable {lib : Libraries} {recent : List Text} {file : ConfigFile} {ns t : LoopNamespace}
  {dag : DagObject}

/-! ### The statements of the body -/

/-- In a namespace `_make_dag` can be called and makes a DAG. -/
structure Made (lib : Libraries) (ns : LoopNamespace) (file : ConfigFile) (dag : DagObject) :
    Prop where
  /-- `_make_dag` is a function. -/
  call : ns.Clear "_make_dag"
  /-- It finds its names. -/
  names : ∀ name ∈ lib.makeDagNames, ns.Clear name
  /-- It makes the DAG. -/
  make : makeDag lib .fresh file = .ok dag

/-- A DAG that is made is bound to `_dag`. -/
theorem makeDagOf_of_made (h : Made lib ns file dag) :
    makeDagOf lib file ns = ⟨.ok dag, ns.keep dag, []⟩ := by
  have hmake := makeDag_eq_ok_iff.mpr ⟨h.names, h.make⟩
  rw [makeDagOf, read_bind, LoopNamespace.call, use_of_clear h.call, ofExcept_ok_bind, hmake,
    ofExcept_ok_bind]
  rfl

/-- Nothing is bound when no DAG is made. -/
theorem makeDagOf_of_not_made (h : ∀ dag, ¬ Made lib ns file dag) :
    ∃ e, makeDagOf lib file ns = ⟨.error e, ns, []⟩ := by
  rw [makeDagOf, read_bind, LoopNamespace.call]
  by_cases hcall : ns.Clear "_make_dag"
  · rw [use_of_clear hcall, ofExcept_ok_bind]
    cases hmake : makeDag lib ns file with
    | error e => exact ⟨e, rfl⟩
    | ok dag =>
      obtain ⟨hnames, hfresh⟩ := makeDag_eq_ok_iff.mp hmake
      exact absurd ⟨hcall, hnames, hfresh⟩ (h dag)
  · rw [use_of_not_clear hcall]
    exact ⟨_, rfl⟩

/-- A DAG is stored when `globals` can be called. -/
theorem storeDag_of_clear (h : ns.Clear "globals") :
    storeDag dag (ns.keep dag) = ⟨.ok (), ns.store dag, []⟩ := by
  have hclear : (ns.keep dag).Clear "globals" := (clear_update_of_ne (by decide)).mpr h
  rw [storeDag, read_bind, LoopNamespace.call, use_of_clear hclear, ofExcept_ok_bind]
  rfl

/-- Nothing is stored when `globals` cannot be called. -/
theorem storeDag_of_not_clear (dag : DagObject) (h : ¬ ns.Clear "globals") :
    ∃ e, storeDag dag (ns.keep dag) = ⟨.error e, ns.keep dag, []⟩ := by
  have hclear : ¬ (ns.keep dag).Clear "globals" := (clear_update_of_ne (by decide)).not.mpr h
  rw [storeDag, read_bind, LoopNamespace.call, use_of_not_clear hclear]
  exact ⟨_, rfl⟩

/-- The text of `_status`. -/
def statusOf (recent : List Text) (file : ConfigFile) : Text :=
  if recent.contains file.name then "new/updated" else "registered"

/-- The namespace after `_status` is bound. -/
def LoopNamespace.mark (ns : LoopNamespace) (recent : List Text) (file : ConfigFile) :
    LoopNamespace :=
  Function.update ns "_status" (some (.text (statusOf recent file)))

/-- The status of a file. -/
theorem setStatus_of_clear (hfile : ns "_config_file" = some (.file file))
    (h : ns.Clear "_recently_changed") :
    setStatus recent ns = ⟨.ok (statusOf recent file), ns.mark recent file, []⟩ := by
  have hchanged : ns.recentlyChanged recent = .ok (recent.contains file.name) := by
    rw [recentlyChanged, configFileName, hfile, ok_bind, use_of_clear h]
    rfl
  rw [setStatus, read_bind, hchanged, ofExcept_ok_bind]
  rfl

/-- The status is not known when the loop variable or `_recently_changed` is a DAG. -/
theorem setStatus_of_error (recent : List Text)
    (h : (∀ file, ns "_config_file" ≠ some (.file file)) ∨ ¬ ns.Clear "_recently_changed") :
    ∃ e, setStatus recent ns = ⟨.error e, ns, []⟩ := by
  have hchanged : ∃ e, ns.recentlyChanged recent = .error e := by
    rw [recentlyChanged]
    cases hname : ns.configFileName with
    | error e => exact ⟨e, rfl⟩
    | ok name =>
      rcases h with h | h
      · obtain ⟨file, hfile⟩ := exists_configFileName_iff.mp ⟨name, hname⟩
        exact absurd hfile (h file)
      · rw [ok_bind, use_of_not_clear h]
        exact ⟨_, rfl⟩
  obtain ⟨e, he⟩ := hchanged
  rw [setStatus, read_bind, he]
  exact ⟨e, rfl⟩

/-- A log call needs the logger and a loop variable that is a file. -/
theorem completes_logLine_iff {method : Text} {line : Text → LoopLine} :
    Completes (logLine method line) ns t ↔
      ns.Clear "log" ∧ (∃ file, ns "_config_file" = some (.file file)) ∧ ns = t := by
  rw [Completes, logLine, read_bind, loadAttr]
  by_cases hlog : ns.Clear "log"
  · rw [use_of_clear hlog, ofExcept_ok_bind, ← exists_configFileName_iff]
    cases hname : ns.configFileName with
    | ok name => exact ⟨fun h => ⟨hlog, ⟨name, rfl⟩, h.2⟩, fun h => ⟨rfl, h.2.2⟩⟩
    | error e =>
      refine iff_of_false (fun h => by cases h.1) ?_
      rintro ⟨-, ⟨_, h⟩, -⟩
      cases h
  · rw [use_of_not_clear hlog]
    exact iff_of_false (fun h => by cases h.1) fun h => hlog h.1

/-- A log call binds nothing. -/
theorem state_logLine (method : Text) (line : Text → LoopLine) :
    (logLine method line ns).state = ns := by
  rw [logLine, read_bind]
  cases ns.loadAttr "log" method with
  | error => rfl
  | ok =>
    rw [ofExcept_ok_bind]
    cases ns.configFileName <;> rfl

/-- A name is deleted after a procedure. -/
theorem completes_ensuring_delete_iff {x : LoopAction Unit} {name : Text} :
    Completes (ensuring x (delete name)) ns t ↔
      ∃ u, Completes x ns u ∧ Function.update u name none = t := by
  change (x ns).result = .ok () ∧ Function.update (x ns).state name none = t ↔ _
  simp [Completes]

/-- The handler completes exactly when its names are there, and it deletes `exc`. -/
theorem completes_exceptException_iff {e : PyExc} : Completes (exceptException e) ns t ↔
    ns.Handles ∧ (∃ file, ns "_config_file" = some (.file file)) ∧
      Function.update ns "exc" none = t := by
  have hlogName : ("log" : Text) ≠ "exc" := by decide
  have hfileName : ("_config_file" : Text) ≠ "exc" := by decide
  rw [exceptException, Completes, read_bind]
  by_cases hexception : ns.Clear "Exception"
  · rw [use_of_clear hexception, ofExcept_ok_bind, assign, modify_bind, ← Completes,
      completes_ensuring_delete_iff]
    simp only [logFailure, completes_logLine_iff, clear_update_of_ne hlogName,
      Function.update_of_ne hfileName]
    constructor
    · rintro ⟨_, ⟨hlog, hfile, rfl⟩, rfl⟩
      exact ⟨⟨hexception, hlog⟩, hfile, by rw [Function.update_idem]⟩
    · rintro ⟨hhandles, hfile, rfl⟩
      exact ⟨_, ⟨hhandles.log, hfile, rfl⟩, by rw [Function.update_idem]⟩
  · rw [use_of_not_clear hexception]
    exact iff_of_false (fun h => by cases h.1) fun h => hexception h.1.1

/-! ### The body -/

/-- The body raises when no DAG is made. -/
theorem tryRegister_of_not_made (recent : List Text) (h : ∀ dag, ¬ Made lib ns file dag) :
    ∃ e, tryRegister lib recent file ns = ⟨.error e, ns, []⟩ := by
  obtain ⟨e, he⟩ := makeDagOf_of_not_made h
  refine ⟨e, ?_⟩
  rw [tryRegister, bind_of_error (congrArg Outcome.result he), he]

/-- The body raises when the DAG cannot be stored. -/
theorem tryRegister_of_not_globals (recent : List Text) (hmade : Made lib ns file dag)
    (h : ¬ ns.Clear "globals") :
    ∃ e, tryRegister lib recent file ns = ⟨.error e, ns.keep dag, []⟩ := by
  obtain ⟨e, he⟩ := storeDag_of_not_clear dag h
  refine ⟨e, ?_⟩
  rw [tryRegister, bind_of_silent (makeDagOf_of_made hmade),
    bind_of_error (congrArg Outcome.result he), he]

/-- What is left of the body when the DAG is stored. -/
theorem tryRegister_of_stored (hmade : Made lib ns file dag) (hglobals : ns.Clear "globals") :
    tryRegister lib recent file ns =
      (do let status ← setStatus recent; logRegistered status dag) (ns.store dag) := by
  rw [tryRegister, bind_of_silent (makeDagOf_of_made hmade),
    bind_of_silent (storeDag_of_clear hglobals)]

/-- What is left of the body when the status is known. -/
theorem tryRegister_of_marked (hmade : Made lib ns file dag) (hglobals : ns.Clear "globals")
    (hfile : ns "_config_file" = some (.file file)) (hid : dag.arguments.dagId ≠ "_config_file")
    (hrecent : (ns.store dag).Clear "_recently_changed") :
    tryRegister lib recent file ns =
      logRegistered (statusOf recent file) dag ((ns.store dag).mark recent file) := by
  have hstored := (store_configFile hid).trans hfile
  rw [tryRegister_of_stored hmade hglobals, bind_of_silent (setStatus_of_clear hstored hrecent)]

/-- The body raises when the status is not known. -/
theorem tryRegister_of_not_marked (recent : List Text) (hmade : Made lib ns file dag)
    (hglobals : ns.Clear "globals") (h : (∀ file, ns.store dag "_config_file" ≠ some (.file file)) ∨
      ¬ (ns.store dag).Clear "_recently_changed") :
    ∃ e, tryRegister lib recent file ns = ⟨.error e, ns.store dag, []⟩ := by
  obtain ⟨e, he⟩ := setStatus_of_error recent h
  refine ⟨e, ?_⟩
  rw [tryRegister_of_stored hmade hglobals, bind_of_error (congrArg Outcome.result he), he]

/-! ### The round -/

section Suppress

variable {x y : LoopAction Unit} {handler : PyExc → LoopAction Unit} {u : LoopNamespace}

/-- Only what is left of a body matters. -/
theorem completes_suppress_congr (h : x ns = y u) :
    Completes (suppress x handler) ns t ↔ Completes (suppress y handler) u t := by
  rw [Completes, Completes, suppress, suppress, h]

/-- A body that raises leaves the rest to the handler. -/
theorem completes_suppress_of_error {e : PyExc} {log : List LoopLine}
    (h : x ns = ⟨.error e, u, log⟩) :
    Completes (suppress x handler) ns t ↔ Completes (handler e) u t := by
  rw [completes_suppress_iff, h]
  simp [Completes, h]

end Suppress

/-- When the log call of the body raises, so does the one of the handler. -/
theorem completes_marked_iff {status : Text} :
    Completes (suppress (logRegistered status dag) exceptException) ns t ↔
      ns.Clear "log" ∧ (∃ file, ns "_config_file" = some (.file file)) ∧ ns = t := by
  rw [completes_suppress_iff, logRegistered, completes_logLine_iff]
  refine or_iff_left_iff_imp.mpr ?_
  rintro ⟨e, he, hexcept⟩
  rw [state_logLine] at hexcept
  obtain ⟨hhandles, hfile, -⟩ := completes_exceptException_iff.mp hexcept
  have hlogged : Completes (logLine "info" (.info status dag.arguments.dagId)) ns ns :=
    completes_logLine_iff.mpr ⟨hhandles.log, hfile, rfl⟩
  rw [hlogged.1] at he
  cases he

/-- What a round does that completes, from the namespace in which the loop variable is bound. -/
inductive Round (lib : Libraries) (recent : List Text) (file : ConfigFile) (ns : LoopNamespace) :
    LoopNamespace → Prop
  /-- No DAG is made. -/
  | failed (hmade : ∀ dag, ¬ Made lib ns file dag) (hhandles : ns.Handles) :
    Round lib recent file ns (Function.update ns "exc" none)
  /-- A DAG is made and not stored. -/
  | unstored {dag : DagObject} (hmade : Made lib ns file dag) (hglobals : ¬ ns.Clear "globals")
    (hhandles : (ns.keep dag).Handles) :
    Round lib recent file ns (Function.update (ns.keep dag) "exc" none)
  /-- A DAG is stored, and its status is not known. -/
  | unmarked {dag : DagObject} (hmade : Made lib ns file dag) (hglobals : ns.Clear "globals")
    (hid : dag.arguments.dagId ≠ "_config_file")
    (hrecent : ¬ (ns.store dag).Clear "_recently_changed") (hhandles : (ns.store dag).Handles) :
    Round lib recent file ns (Function.update (ns.store dag) "exc" none)
  /-- A DAG is stored and its status logged. -/
  | registered {dag : DagObject} (hmade : Made lib ns file dag) (hglobals : ns.Clear "globals")
    (hid : dag.arguments.dagId ≠ "_config_file")
    (hrecent : (ns.store dag).Clear "_recently_changed") (hlog : (ns.store dag).Clear "log") :
    Round lib recent file ns ((ns.store dag).mark recent file)

/-- A round that completes has done one of the four. -/
theorem round_of_completes (hfile : ns "_config_file" = some (.file file))
    (h : Completes (suppress (tryRegister lib recent file) exceptException) ns t) :
    Round lib recent file ns t := by
  by_cases hmade : ∃ dag, Made lib ns file dag
  · obtain ⟨dag, hmade⟩ := hmade
    by_cases hglobals : ns.Clear "globals"
    · by_cases hmarked : dag.arguments.dagId ≠ "_config_file" ∧
        (ns.store dag).Clear "_recently_changed"
      · obtain ⟨hid, hrecent⟩ := hmarked
        rw [completes_suppress_congr (tryRegister_of_marked hmade hglobals hfile hid hrecent),
          completes_marked_iff] at h
        obtain ⟨hlog, -, rfl⟩ := h
        exact .registered hmade hglobals hid hrecent ((clear_update_of_ne (by decide)).mp hlog)
      · have hnot : (∀ other, ns.store dag "_config_file" ≠ some (.file other)) ∨
            ¬ (ns.store dag).Clear "_recently_changed" := by
          by_cases hid : dag.arguments.dagId = "_config_file"
          · exact .inl fun other hother => ne_configFile_of_store hother hid
          · exact .inr fun hrecent => hmarked ⟨hid, hrecent⟩
        obtain ⟨e, he⟩ := tryRegister_of_not_marked recent hmade hglobals hnot
        rw [completes_suppress_of_error he, completes_exceptException_iff] at h
        obtain ⟨hhandles, ⟨other, hother⟩, rfl⟩ := h
        have hrecent := hnot.resolve_left fun h => h other hother
        exact .unmarked hmade hglobals (ne_configFile_of_store hother) hrecent hhandles
    · obtain ⟨e, he⟩ := tryRegister_of_not_globals recent hmade hglobals
      rw [completes_suppress_of_error he, completes_exceptException_iff] at h
      obtain ⟨hhandles, -, rfl⟩ := h
      exact .unstored hmade hglobals hhandles
  · have hmade := not_exists.mp hmade
    obtain ⟨e, he⟩ := tryRegister_of_not_made recent hmade
    rw [completes_suppress_of_error he, completes_exceptException_iff] at h
    obtain ⟨hhandles, -, rfl⟩ := h
    exact .failed hmade hhandles

/-- Each of the four completes. -/
theorem completes_of_round (hfile : ns "_config_file" = some (.file file))
    (h : Round lib recent file ns t) :
    Completes (suppress (tryRegister lib recent file) exceptException) ns t := by
  cases h with
  | failed hmade hhandles =>
    obtain ⟨e, he⟩ := tryRegister_of_not_made recent hmade
    exact (completes_suppress_of_error he).mpr
      (completes_exceptException_iff.mpr ⟨hhandles, ⟨file, hfile⟩, rfl⟩)
  | unstored hmade hglobals hhandles =>
    obtain ⟨e, he⟩ := tryRegister_of_not_globals recent hmade hglobals
    exact (completes_suppress_of_error he).mpr
      (completes_exceptException_iff.mpr ⟨hhandles, ⟨file, hfile⟩, rfl⟩)
  | unmarked hmade hglobals hid hrecent hhandles =>
    obtain ⟨e, he⟩ := tryRegister_of_not_marked recent hmade hglobals (.inr hrecent)
    exact (completes_suppress_of_error he).mpr (completes_exceptException_iff.mpr
      ⟨hhandles, ⟨file, (store_configFile hid).trans hfile⟩, rfl⟩)
  | registered hmade hglobals hid hrecent hlog =>
    rw [completes_suppress_congr (tryRegister_of_marked hmade hglobals hfile hid hrecent),
      completes_marked_iff]
    have hfile' := (store_configFile hid).trans hfile
    exact ⟨(clear_update_of_ne (by decide)).mpr hlog,
      ⟨file, (Function.update_of_ne (by decide) ..).trans hfile'⟩, rfl⟩

/-- **What a round does.** -/
theorem completes_register_iff : Completes (register lib recent file) ns t ↔
    Round lib recent file (ns.enter file) t := by
  have hfile : ns.enter file "_config_file" = some (.file file) := Function.update_self ..
  have henter : register lib recent file ns =
      suppress (tryRegister lib recent file) exceptException (ns.enter file) := by
    rw [register, assign, modify_bind]
    rfl
  rw [Completes, henter]
  exact ⟨round_of_completes hfile, completes_of_round hfile⟩

end BatchIngestion
