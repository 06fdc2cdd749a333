import BatchIngestion.Config
import BatchIngestion.Library.Fallible
import BatchIngestion.Library.Loop
import BatchIngestion.Python.PurePath
import BatchIngestion.Python.Value

/-!
# The registration loop of the DAG factory

The loop makes a DAG from each configuration file and binds it, in the namespace of the
module, to the stem of the file. Its own body, its handler and `_make_dag` look up their names
in the same namespace, so a DAG can take the place of a name that a later step needs.
-/

namespace BatchIngestion

open Python Library Procedure

/-! ### Files -/

/-- A file of the directory of configurations. -/
structure ConfigFile where
  /-- `name`. -/
  name : Text
  /-- `read_text()`. -/
  text : Except PyExc Text

/-- `str(config_path)`. -/
def ConfigFile.path (file : ConfigFile) : Text := "/opt/airflow/app/config/" ++ file.name

/-- `_dag_id_from_path`. -/
def dagIdFromPath (file : ConfigFile) : Text := PurePath.stem file.name

/-- `_CONFIG_DIR`. -/
structure ConfigDirectory where
  /-- The entries, in any order. -/
  entries : List ConfigFile
  /-- The entries of a directory have different names. -/
  nodup : (entries.map ConfigFile.name).Nodup

/-- `sorted(_CONFIG_DIR.glob("*.yaml"))`. -/
def ConfigDirectory.configFiles (dir : ConfigDirectory) : List ConfigFile :=
  (dir.entries.filter fun file => (".yaml" : Text).isSuffixOf file.name).insertionSort
    fun file other => file.name ≤ other.name

/-! ### DAGs -/

/-- The arguments of `DAG(...)`, but for `catchup=False`. -/
structure DagArguments where
  /-- `dag_id`. -/
  dagId : Text
  /-- `description`. -/
  description : Value
  /-- `schedule_interval`. -/
  scheduleInterval : Value
  /-- `start_date`. -/
  startDate : Value
  /-- `default_args["owner"]`. -/
  owner : Value
  /-- `default_args["retries"]`. -/
  retries : Value
  /-- `default_args["retry_delay"]`. -/
  retryDelay : Value
  /-- `tags`. -/
  tags : Value

/-- The arguments of `InitOperator(...)`. -/
structure InitArguments where
  /-- `config_path`. -/
  configPath : Text
  /-- `checkpoint_conn_id`. -/
  checkpointConnId : Text
  /-- `openbao_conn_id`. -/
  openbaoConnId : Text
  /-- `xcom_key`. -/
  xcomKey : Text

/-- The arguments of `SparkRunOperator(...)`. -/
structure SparkRunArguments where
  /-- `init_task_id`. -/
  initTaskId : Text
  /-- `xcom_key`. -/
  xcomKey : Text
  /-- `checkpoint_conn_id`. -/
  checkpointConnId : Text
  /-- `metric_type`. -/
  metricType : MetricAdapterType
  /-- `metric_config_raw`. -/
  metricConfigRaw : Value
  /-- `spark_config`. -/
  sparkConfig : Value

/-- The arguments of `MetricPushOperator(...)`. -/
structure MetricPushArguments where
  /-- `init_task_id`. -/
  initTaskId : Text
  /-- `spark_task_id`. -/
  sparkTaskId : Text
  /-- `metric_type`. -/
  metricType : MetricAdapterType
  /-- `metric_config_raw`. -/
  metricConfigRaw : Value
  /-- `status`. -/
  status : Text
  /-- `extra_payload`. -/
  extraPayload : Value
  /-- `checkpoint_conn_id`. -/
  checkpointConnId : Text

/-- A DAG with its tasks `init >> spark_run >> metric_push`. -/
structure DagObject where
  /-- The arguments of the DAG. -/
  arguments : DagArguments
  /-- `init`. -/
  init : InitArguments
  /-- `spark_run`. -/
  sparkRun : SparkRunArguments
  /-- `metric_push`. -/
  metricPush : MetricPushArguments

/-- The libraries that `_make_dag` calls. -/
structure Libraries where
  /-- `yaml.safe_load`. -/
  safeLoad : Text → Except PyExc Value
  /-- `repr`. -/
  repr : Value → Text
  /-- `timedelta(minutes=minutes)`. -/
  timedelta : Value → Except PyExc Value
  /-- `days_ago(days)`. -/
  daysAgo : ℕ → Value
  /-- The constructor of a DAG. -/
  dag : DagArguments → Except PyExc Unit
  /-- The constructor of a task, with its `task_id`, in a DAG. -/
  operator : Text → DagArguments → Except PyExc Unit
  /-- Whether `days_ago` and `DAG` warn that they are deprecated. -/
  warns : Bool

/-! ### The namespace -/

/-- An object that the loop binds to a name. -/
inductive LoopObject
  /-- A file. -/
  | file (file : ConfigFile)
  /-- A DAG. -/
  | dag (dag : DagObject)
  /-- A text. -/
  | text (text : Text)
  /-- An exception. -/
  | exception (exception : PyExc)

/-- What the loop has bound in the namespace of the module. A name that it has not bound means
what the rest of the module, or Python, means by it. -/
abbrev LoopNamespace := Text → Option LoopObject

namespace LoopNamespace

/-- The namespace before the loop. -/
def fresh : LoopNamespace := fun _ => none

/-- A name is not bound to a DAG. -/
def Clear (ns : LoopNamespace) (name : Text) : Prop := ∀ dag, ns name ≠ some (.dag dag)

/-- Use a name as what the module means by it, or raise what a DAG raises there. -/
def use (ns : LoopNamespace) (name : Text) (exception : PyExc) : Except PyExc Unit :=
  match ns name with
  | some (.dag _) => .error exception
  | _ => .ok ()

/-- Call a name. -/
def call (ns : LoopNamespace) (name : Text) : Except PyExc Unit :=
  ns.use name (.typeError "'DAG' object is not callable")

/-- An attribute of a name. -/
def loadAttr (ns : LoopNamespace) (name field : Text) : Except PyExc Unit :=
  ns.use name (.attributeError (("'DAG' object has no attribute '" : Text) ++ field ++ ['\'']))

/-- A deprecation warning looks up the registry of warnings of the module that it is about. -/
def warn (ns : LoopNamespace) : Except PyExc Unit :=
  ns.use "__warningregistry__" (.typeError "'registry' must be a dict or None")

/-- `_config_file.name`. -/
def configFileName (ns : LoopNamespace) : Except PyExc Text :=
  match ns "_config_file" with
  | some (.file file) => .ok file.name
  | _ => .error (.attributeError "'DAG' object has no attribute 'name'")

variable {ns : LoopNamespace} {name : Text} {exception : PyExc}

/-- A name can be used exactly when it is not bound to a DAG. -/
theorem use_eq_ok_iff {u : Unit} : ns.use name exception = .ok u ↔ ns.Clear name := by
  unfold use Clear
  split <;> simp_all

/-- A name that is not bound to a DAG can be used. -/
theorem use_of_clear (h : ns.Clear name) : ns.use name exception = .ok () := use_eq_ok_iff.mpr h

/-- A name that is bound to a DAG raises. -/
theorem use_of_not_clear (h : ¬ ns.Clear name) : ns.use name exception = .error exception := by
  obtain ⟨dag, hdag⟩ := not_forall_not.mp h
  rw [use, hdag]

/-- Before the loop no name is bound to a DAG. -/
theorem clear_fresh (name : Text) : fresh.Clear name := fun _ h => by cases h

end LoopNamespace

/-! ### Making a DAG -/

/-- `MetricAdapterType(value)` of any value. -/
def Libraries.metricAdapterType (lib : Libraries) : Value → Except PyExc MetricAdapterType
  | .str value => MetricAdapterType.ofValue value
  | value => .error (.valueError (lib.repr value ++ (" is not a valid MetricAdapterType" : Text)))

/-- The warnings of `days_ago` and `DAG`, whose callers are both `_make_dag`. -/
def Libraries.warn (lib : Libraries) (ns : LoopNamespace) : Except PyExc Unit :=
  if lib.warns then ns.warn else .ok ()

/-- The arguments of the DAG, with the call of `DAG`. -/
def makeArguments (lib : Libraries) (ns : LoopNamespace) (cfg : Value) (dagId : Text) :
    Except PyExc DagArguments := do
  let owner ← cfg.getD "owner" (.str "ingestion")
  let retries ← cfg.getD "retries" (.int 0)
  let minutes ← cfg.getD "retry_delay_minutes" (.int 5)
  ns.call "timedelta"
  let retryDelay ← lib.timedelta minutes
  let description ← cfg.getD "description" (.str (("Ingestion pipeline — " : Text) ++ dagId))
  let scheduleInterval ← cfg.getD "schedule_interval" .none
  ns.call "days_ago"
  lib.warn ns
  let tags ← cfg.getD "tags" (.list [.str "ingestion"])
  ns.call "DAG"
  let arguments : DagArguments :=
    { dagId, description, scheduleInterval, startDate := lib.daysAgo 1, owner, retries, retryDelay,
      tags }
  lib.dag arguments
  return arguments

/-- The calls of the operators. -/
def makeTasks (lib : Libraries) (ns : LoopNamespace) (arguments : DagArguments) :
    Except PyExc Unit := do
  ns.call "str"
  ns.call "InitOperator"
  lib.operator "init" arguments
  ns.call "SparkRunOperator"
  lib.operator "spark_run" arguments
  ns.call "MetricPushOperator"
  lib.operator "metric_push" arguments

/-- `_make_dag`. -/
def makeDag (lib : Libraries) (ns : LoopNamespace) (file : ConfigFile) :
    Except PyExc DagObject := do
  ns.loadAttr "yaml" "safe_load"
  let text ← file.text
  let cfg ← lib.safeLoad text
  ns.call "_dag_id_from_path"
  let dagId := dagIdFromPath file
  let metricValue ← cfg.item "metric_type"
  ns.call "MetricAdapterType"
  let metricType ← lib.metricAdapterType metricValue
  let metricConfig ← cfg.item "metric"
  let sparkConfig ← cfg.getD "spark" (.dict [])
  let arguments ← makeArguments lib ns cfg dagId
  makeTasks lib ns arguments
  return {
    arguments
    init := {
      configPath := file.path
      checkpointConnId := "postgres_checkpoint"
      openbaoConnId := "openbao_default"
      xcomKey := "run_context" }
    sparkRun := {
      initTaskId := "init"
      xcomKey := "run_context"
      checkpointConnId := "postgres_checkpoint"
      metricType
      metricConfigRaw := metricConfig
      sparkConfig }
    metricPush := {
      initTaskId := "init"
      sparkTaskId := "spark_run"
      metricType
      metricConfigRaw := metricConfig
      status := "success"
      extraPayload := .dict [("pipeline", .str dagId)]
      checkpointConnId := "postgres_checkpoint" } }

/-- The names that `_make_dag` looks up, with the one that a warning looks up. -/
def Libraries.makeDagNames (lib : Libraries) : List Text :=
  let names : List Text := ["yaml", "_dag_id_from_path", "MetricAdapterType", "timedelta",
    "days_ago", "DAG", "str", "InitOperator", "SparkRunOperator", "MetricPushOperator"]
  if lib.warns then "__warningregistry__" :: names else names

section MakeDag

variable {lib : Libraries} {ns : LoopNamespace} {file : ConfigFile} {dag : DagObject}

/-- The names of `_make_dag`, one by one. -/
theorem Libraries.forall_makeDagNames_iff {p : Text → Prop} :
    (∀ name ∈ lib.makeDagNames, p name) ↔
      (lib.warns → p "__warningregistry__") ∧ p "yaml" ∧ p "_dag_id_from_path" ∧
        p "MetricAdapterType" ∧ p "timedelta" ∧ p "days_ago" ∧ p "DAG" ∧ p "str" ∧
        p "InitOperator" ∧ p "SparkRunOperator" ∧ p "MetricPushOperator" := by
  unfold makeDagNames
  split
  · rename_i h
    simp only [List.forall_mem_cons, h, forall_true_left, List.not_mem_nil, false_imp_iff,
      implies_true, and_true]
  · rename_i h
    simp only [List.forall_mem_cons, h, Bool.false_eq_true, false_imp_iff, true_and,
      List.not_mem_nil, implies_true, and_true]

/-- A warning needs its registry. -/
theorem Libraries.warn_eq_ok_iff {u : Unit} :
    lib.warn ns = .ok u ↔ (lib.warns → ns.Clear "__warningregistry__") := by
  unfold warn LoopNamespace.warn
  split
  · rename_i h
    rw [LoopNamespace.use_eq_ok_iff]
    simp [h]
  · rename_i h
    simp [h]

/-- A warning whose registry is there. -/
theorem Libraries.warn_of_clear (h : lib.warns → ns.Clear "__warningregistry__") :
    lib.warn ns = .ok () :=
  warn_eq_ok_iff.mpr h

/-- The names that the call of `DAG` has used. -/
theorem clear_of_makeArguments {cfg : Value} {dagId : Text} {arguments : DagArguments}
    (h : makeArguments lib ns cfg dagId = .ok arguments) :
    ns.Clear "timedelta" ∧ ns.Clear "days_ago" ∧
      (lib.warns → ns.Clear "__warningregistry__") ∧ ns.Clear "DAG" := by
  simp only [makeArguments, Library.bind_eq_ok_iff, LoopNamespace.call,
    LoopNamespace.use_eq_ok_iff, Libraries.warn_eq_ok_iff] at h
  obtain ⟨_, -, _, -, _, -, _, htimedelta, _, -, _, -, _, -, _, hdaysAgo, _, hwarn, _, -, _, hdag,
    -⟩ := h
  exact ⟨htimedelta, hdaysAgo, hwarn, hdag⟩

/-- The names that the calls of the operators have used. -/
theorem clear_of_makeTasks {arguments : DagArguments} (h : makeTasks lib ns arguments = .ok ()) :
    ns.Clear "str" ∧ ns.Clear "InitOperator" ∧ ns.Clear "SparkRunOperator" ∧
      ns.Clear "MetricPushOperator" := by
  simp only [makeTasks, Library.bind_eq_ok_iff, LoopNamespace.call,
    LoopNamespace.use_eq_ok_iff] at h
  obtain ⟨_, hstr, _, hinit, _, -, _, hspark, _, -, _, hmetric, -⟩ := h
  exact ⟨hstr, hinit, hspark, hmetric⟩

/-- `_make_dag` has used all of its names when it returns. -/
theorem clear_of_makeDag (h : makeDag lib ns file = .ok dag) :
    ∀ name ∈ lib.makeDagNames, ns.Clear name := by
  simp only [makeDag, Library.bind_eq_ok_iff, LoopNamespace.call, LoopNamespace.loadAttr,
    LoopNamespace.use_eq_ok_iff] at h
  obtain ⟨_, hyaml, _, -, _, -, _, hid, _, -, _, htype, _, -, _, -, _, -, arguments, harguments, _,
    htasks, -⟩ := h
  obtain ⟨htimedelta, hdaysAgo, hwarn, hdag⟩ := clear_of_makeArguments harguments
  exact Libraries.forall_makeDagNames_iff.mpr
    ⟨hwarn, hyaml, hid, htype, htimedelta, hdaysAgo, hdag, clear_of_makeTasks htasks⟩

/-- Where none of its names is bound to a DAG, `_make_dag` does what it does before the loop. -/
theorem makeDag_of_clear (h : ∀ name ∈ lib.makeDagNames, ns.Clear name) :
    makeDag lib ns file = makeDag lib .fresh file := by
  have huse {name : Text} (hname : ns.Clear name) (e : PyExc) :
      ns.use name e = LoopNamespace.fresh.use name e :=
    (LoopNamespace.use_of_clear hname).trans
      (LoopNamespace.use_of_clear (LoopNamespace.clear_fresh name)).symm
  obtain ⟨hwarn, hyaml, hid, htype, htimedelta, hdaysAgo, hdag, hstr, hinit, hspark, hmetric⟩ :=
    Libraries.forall_makeDagNames_iff.mp h
  have hwarn : lib.warn ns = lib.warn .fresh :=
    (Libraries.warn_of_clear hwarn).trans
      (Libraries.warn_of_clear fun _ => LoopNamespace.clear_fresh _).symm
  simp only [makeDag, makeArguments, makeTasks, LoopNamespace.call, LoopNamespace.loadAttr, hwarn,
    huse hyaml, huse hid, huse htype, huse htimedelta, huse hdaysAgo, huse hdag, huse hstr,
    huse hinit, huse hspark, huse hmetric]

/-- **The names of `_make_dag`**: it makes the DAG of a file exactly when none of its names is
bound to a DAG and it makes that DAG in the namespace before the loop. -/
theorem makeDag_eq_ok_iff : makeDag lib ns file = .ok dag ↔
    (∀ name ∈ lib.makeDagNames, ns.Clear name) ∧ makeDag lib .fresh file = .ok dag := by
  constructor
  · intro h
    have hclear := clear_of_makeDag h
    exact ⟨hclear, (makeDag_of_clear hclear).symm.trans h⟩
  · rintro ⟨hclear, h⟩
    exact (makeDag_of_clear hclear).trans h

/-- The DAG of a file has the `dag_id` and the path of the file. -/
theorem ids_of_makeDag (h : makeDag lib ns file = .ok dag) :
    dag.arguments.dagId = dagIdFromPath file ∧ dag.init.configPath = file.path := by
  simp only [makeDag, Library.bind_eq_ok_iff] at h
  obtain ⟨_, -, _, -, _, -, _, -, _, -, _, -, _, -, _, -, _, -, arguments, harguments, _, -, h⟩ := h
  obtain rfl := Except.ok.inj h
  simp only [makeArguments, Library.bind_eq_ok_iff] at harguments
  obtain ⟨_, -, _, -, _, -, _, -, _, -, _, -, _, -, _, -, _, -, _, -, _, -, _, -, h⟩ := harguments
  obtain rfl := Except.ok.inj h
  exact ⟨rfl, rfl⟩

end MakeDag

/-! ### The loop -/

/-- A line that the loop logs. -/
inductive LoopLine
  /-- A DAG was registered: `_status`, its `dag_id` and the name of its file. -/
  | info (status dagId fileName : Text)
  /-- A file failed to load. -/
  | error (fileName : Text) (exception : PyExc)

/-- A piece of the module. -/
abbrev LoopAction (α : Type) := Procedure PyExc LoopNamespace LoopLine α

/-- `name = object`. -/
def LoopAction.assign (name : Text) (object : LoopObject) : LoopAction Unit :=
  modify fun ns => Function.update ns name (some object)

/-- `del name`. -/
def LoopAction.delete (name : Text) : LoopAction Unit :=
  modify fun ns => Function.update ns name none

open LoopAction

/-- `_config_file.name in _recently_changed`. -/
def LoopNamespace.recentlyChanged (ns : LoopNamespace) (recent : List Text) :
    Except PyExc Bool := do
  let name ← ns.configFileName
  ns.use "_recently_changed" (.typeError "argument of type 'DAG' is not iterable")
  return recent.contains name

/-- `_dag = _make_dag(_config_file)`. -/
def makeDagOf (lib : Libraries) (file : ConfigFile) : LoopAction DagObject := do
  let ns ← read
  ofExcept (ns.call "_make_dag")
  let dag ← ofExcept (makeDag lib ns file)
  assign "_dag" (.dag dag)
  return dag

/-- `globals()[_dag.dag_id] = _dag`. -/
def storeDag (dag : DagObject) : LoopAction Unit := do
  let ns ← read
  ofExcept (ns.call "globals")
  assign dag.arguments.dagId (.dag dag)

/-- `_status = ...`. -/
def setStatus (recent : List Text) : LoopAction Text := do
  let ns ← read
  let changed ← ofExcept (ns.recentlyChanged recent)
  let status : Text := if changed then "new/updated" else "registered"
  assign "_status" (.text status)
  return status

/-- A call of a method of `log` with `_config_file.name` among its arguments. -/
def logLine (method : Text) (line : Text → LoopLine) : LoopAction Unit := do
  let ns ← read
  ofExcept (ns.loadAttr "log" method)
  let name ← ofExcept ns.configFileName
  emit (line name)

/-- `log.info(...)`. -/
def logRegistered (status : Text) (dag : DagObject) : LoopAction Unit :=
  logLine "info" (.info status dag.arguments.dagId)

/-- `log.error(...)`. -/
def logFailure (exception : PyExc) : LoopAction Unit :=
  logLine "error" fun name => .error name exception

/-- The body of the `try` statement. -/
def tryRegister (lib : Libraries) (recent : List Text) (file : ConfigFile) : LoopAction Unit := do
  let dag ← makeDagOf lib file
  storeDag dag
  let status ← setStatus recent
  logRegistered status dag

/-- `except Exception as exc`, which deletes `exc` at its end. -/
def exceptException (exception : PyExc) : LoopAction Unit := do
  let ns ← read
  ofExcept (ns.use "Exception"
    (.typeError "catching classes that do not inherit from BaseException is not allowed"))
  assign "exc" (.exception exception)
  ensuring (logFailure exception) (delete "exc")

/-- A round of the loop. -/
def register (lib : Libraries) (recent : List Text) (file : ConfigFile) : LoopAction Unit := do
  assign "_config_file" (.file file)
  suppress (tryRegister lib recent file) exceptException

/-- The registration loop. -/
def registerAll (lib : Libraries) (recent : List Text) (files : List ConfigFile) :
    LoopAction Unit :=
  files.forM (register lib recent)

end BatchIngestion
