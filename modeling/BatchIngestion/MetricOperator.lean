import BatchIngestion.RunContext

/-!
# The metric task

`MetricPushOperator` pulls the two checkpoints from XCom as texts, publishes a
metric and upserts the text of `checkpoint_to`. The secondary push to Redis is
left out: its two keys are never part of a run context.
-/

namespace BatchIngestion

open Python Library

/-- What the downstream tasks pull from the XCom entry of the init task. -/
structure Xcom where
  /-- `checkpoint_from`. -/
  checkpointFrom : Option TaggedCheckpoint
  /-- `checkpoint_to`. -/
  checkpointTo : Option TaggedCheckpoint
  /-- `read_type`. -/
  readType : Text
  /-- `ingestion_date`. -/
  ingestionDate : Text
  deriving DecidableEq

/-- The XCom entry of a serialised run context. -/
def ContextDict.xcom (d : ContextDict) : Xcom :=
  ⟨d.checkpointFrom, d.checkpointTo, d.readType, d.ingestionDate⟩

/-- The XCom entry of a run with given checkpoints. -/
def Xcom.ofCheckpoints (checkpointFrom checkpointTo : Option CheckpointValue)
    (readType : ReadAdapterType) (ingestionDate : Text) : Xcom where
  checkpointFrom := serialiseCheckpoint checkpointFrom
  checkpointTo := serialiseCheckpoint checkpointTo
  readType := readType.value
  ingestionDate := ingestionDate

/-- The entry of a run context carries its checkpoints, read type and date. -/
theorem RunContext.xcom_toDict (ctx : RunContext) :
    ctx.toDict.xcom = Xcom.ofCheckpoints ctx.checkpointFrom ctx.checkpointTo ctx.readType
      (dateIsoformat ctx.ingestionDate) := rfl

/-- A value of a metric payload. -/
inductive PayloadValue
  /-- `None`. -/
  | none
  /-- A string. -/
  | str (value : Text)
  /-- An integer. -/
  | int (value : ℤ)
  deriving DecidableEq

/-- An optional text in a payload. -/
def PayloadValue.ofText : Option Text → PayloadValue
  | some s => .str s
  | Option.none => .none

/-- The dictionary of a metric. -/
abbrev Payload := Dict Text PayloadValue

/-- The parameters of a `MetricPushOperator`. -/
structure MetricPushOperator where
  /-- `status`. -/
  status : Text
  /-- `extra_payload`. -/
  extraPayload : Payload
  /-- `checkpoint_conn_id`. -/
  checkpointConnId : Option Text
  /-- `spark_task_id`. -/
  sparkTaskId : Option Text
  deriving DecidableEq

/-- What Airflow knows about a run. -/
structure RunInfo where
  /-- `run_id`. -/
  runId : Text
  /-- `dag_run.start_date.isoformat()`. -/
  startTime : Text
  /-- The date of the data interval, as an ISO text. -/
  ingestionDate : Text
  deriving DecidableEq

/-- The local variables of `MetricPushOperator.execute` after the XCom pulls. -/
structure Pulled where
  /-- `checkpoint_from`. -/
  checkpointFrom : Option Text := none
  /-- `checkpoint_to`. -/
  checkpointTo : Option Text := none
  /-- `read_type`. -/
  readType : Option Text := none
  /-- `ingestion_date`. -/
  ingestionDate : Option Text := none
  /-- `record_count`. -/
  recordCount : Option ℕ := none
  deriving DecidableEq

namespace MetricPushOperator

/-- The XCom pulls of `execute`. -/
def pull (op : MetricPushOperator) (xcom : Option Xcom) (recordCount : Option ℕ) :
    Except PyExc Pulled :=
  let recordCount := if op.sparkTaskId.isSome then recordCount else none
  match xcom with
  | none => .ok { recordCount }
  | some x => do
    let checkpointFrom ← checkpointText x.checkpointFrom
    let checkpointTo ← checkpointText x.checkpointTo
    return {
      checkpointFrom, checkpointTo, recordCount
      readType := some x.readType
      ingestionDate := some x.ingestionDate }

/-- Add an optional entry to a payload. -/
def addOptional (payload : Payload) (key : Text) (value : Option PayloadValue) : Payload :=
  value.elim payload fun v => Dict.set payload key v

/-- The payload that `execute` publishes. -/
def payload (op : MetricPushOperator) (dagId stopTime : Text) (info : RunInfo) (pulled : Pulled) :
    Payload :=
  let payload : Payload := [
    ("dag_id", .str dagId),
    ("run_id", .str info.runId),
    ("status", .str op.status),
    ("start_time", .str info.startTime),
    ("stop_time", .str stopTime),
    ("checkpoint_from", .ofText pulled.checkpointFrom),
    ("checkpoint_to", .ofText pulled.checkpointTo)]
  let payload := addOptional payload "read_type" (pulled.readType.map .str)
  let payload := addOptional payload "ingestion_date" (pulled.ingestionDate.map .str)
  let payload := addOptional payload "record_count"
    (pulled.recordCount.map fun n => .int (n : ℤ))
  Dict.update payload op.extraPayload

/-- psycopg2 rejects a text parameter with a NUL character. -/
def textParameter (s : Text) : Except PyExc Text :=
  if '\x00' ∈ s then
    .error (.valueError "A string literal cannot contain NUL (0x00) characters.")
  else .ok s

/-- The last step of `execute`: the text that `_save_checkpoint` upserts, if it is called. -/
def checkpointToSave (op : MetricPushOperator) (pulled : Pulled) : Except PyExc (Option Text) :=
  match pulled.checkpointTo, op.checkpointConnId with
  | some text, some connId =>
    if text = [] ∨ connId = [] then .ok none else (textParameter text).map some
  | _, _ => .ok none

/-- Only the pulled `checkpoint_to` is saved. -/
theorem checkpointTo_of_checkpointToSave {op : MetricPushOperator} {pulled : Pulled} {text : Text}
    (h : op.checkpointToSave pulled = .ok (some text)) : pulled.checkpointTo = some text := by
  unfold checkpointToSave at h
  split at h
  · split at h
    · simp at h
    · obtain ⟨s, hs, heq⟩ := map_eq_ok_iff.mp h
      rename_i htext _ _
      unfold textParameter at hs
      split at hs
      · simp at hs
      · obtain rfl := Except.ok.inj hs
        rw [htext, ← heq]
  · simp at h

/-- A key that no later assignment names keeps its value in the payload. -/
theorem get?_addOptional {payload : Payload} {key other : Text} (hne : key ≠ other)
    (value : Option PayloadValue) :
    Dict.get? (addOptional payload key value) other = Dict.get? payload other := by
  cases value with
  | none => rfl
  | some v => rw [addOptional, Option.elim_some, Dict.get?_set, if_neg hne]

/-- **The payload publishes the pulled texts**, unless `extra_payload` overrides them. -/
theorem get?_payload {op : MetricPushOperator} {dagId stopTime : Text} {info : RunInfo}
    {pulled : Pulled} {key : Text} (hextra : key ∉ Dict.keys op.extraPayload)
    (hkey : key ≠ ("read_type" : Text) ∧ key ≠ ("ingestion_date" : Text) ∧
      key ≠ ("record_count" : Text)) :
    Dict.get? (op.payload dagId stopTime info pulled) key =
      Dict.get? ([("dag_id".toList, .str dagId), ("run_id".toList, .str info.runId),
        ("status".toList, .str op.status), ("start_time".toList, .str info.startTime),
        ("stop_time".toList, .str stopTime),
        ("checkpoint_from".toList, .ofText pulled.checkpointFrom),
        ("checkpoint_to".toList, .ofText pulled.checkpointTo)] : Payload) key := by
  rw [payload, Dict.get?_update_of_notMem hextra, get?_addOptional (Ne.symm hkey.2.2),
    get?_addOptional (Ne.symm hkey.2.1), get?_addOptional (Ne.symm hkey.1)]

end MetricPushOperator

/-- The payload of the inline failure metric of the Spark task. -/
def failurePayload (dagId runId error : Text) : Payload := [
  ("status", .str "failed"),
  ("dag_id", .str dagId),
  ("run_id", .str runId),
  ("error", .str error)]

namespace DagFactory

/-- The `MetricPushOperator` of `_make_dag`. -/
def metricPush (dagId : Text) : MetricPushOperator where
  status := "success"
  extraPayload := [("pipeline", .str dagId)]
  checkpointConnId := some "postgres_checkpoint".toList
  sparkTaskId := some "spark_run".toList

end DagFactory

end BatchIngestion
