import BatchIngestion.KafkaOffsets
import BatchIngestion.RunContext

/-!
# The init task

`InitOperator` resolves the configuration of a run, reads the last checkpoint from
the store and asks the source for its maximum. A failing maximum query is
swallowed; every other failure is raised. The clients of the sources are
parameters, given by what they answer.
-/

namespace BatchIngestion

open Python Library

/-- The attribute of a DynamoDB item: the texts under `N` and `S`. -/
structure AttributeValue where
  /-- A number. -/
  n : Option Text := none
  /-- A string. -/
  s : Option Text := none

/-- What the native clients of the sources answer. -/
structure Native where
  /-- The first value of the first row of a `SELECT MAX` statement. -/
  selectMax : Text → Except PyExc (Option RawValue)
  /-- The `max_val` of a `$group` aggregation over a field, when there is a group. -/
  groupMax : Text → Except PyExc (Option RawValue)
  /-- The pages of a scan that projects one attribute, item by item. -/
  scan : Text → Except PyExc (List (List AttributeValue))
  /-- The pages of `LastModified` times of the objects under a path. -/
  lastModified : Text → Except PyExc (List (List DateTime))
  /-- The return code and the output of `hdfs dfs -stat %y` for a path. -/
  hdfsStat : Text → Except PyExc (ℤ × Text)
  /-- The Kafka broker. -/
  broker : Except PyExc Broker

/-- Clients that cannot reach their systems. -/
def Native.down : Native where
  selectMax _ := .error (.external "connection failed")
  groupMax _ := .error (.external "connection failed")
  scan _ := .error (.external "connection failed")
  lastModified _ := .error (.external "connection failed")
  hdfsStat _ := .error (.external "connection failed")
  broker := .error (.external "connection failed")

/-- `a > b` between two checkpoints. Values of different types, and a naive and an aware
time, do not compare. -/
def CheckpointValue.gt : CheckpointValue → CheckpointValue → Except PyExc Bool
  | .int a, .int b => .ok (decide (a > b))
  | .str a, .str b => .ok (decide (b < a))
  | .datetime a, .datetime b =>
    if a.offset.isSome = b.offset.isSome then .ok (decide (a.instant > b.instant))
    else .error (.typeError "can't compare offset-naive and offset-aware datetimes")
  | _, _ => .error (.typeError "'>' not supported between instances")

/-- `attr.get("N") or attr.get("S")`. -/
def AttributeValue.raw (attr : AttributeValue) : Option Text :=
  match attr.n with
  | some n => if n = [] then attr.s else some n
  | none => attr.s

/-- The `extra` dictionary of the `sink` section, empty when it is missing. -/
def PipelineConfig.sinkExtra (cfg : PipelineConfig) : Dict Text Yaml :=
  (cfg.sink.bind SinkSection.extra).getD []

namespace InitOperator

/-- `_parse_checkpoint(row[0]) if row else None`. -/
def parseRow : Option RawValue → Except PyExc (Option CheckpointValue)
  | some raw => parseCheckpoint raw
  | none => .ok none

/-- The statement of `_max_sql`. -/
def maxSqlStatement (config : TableSourceConfig) (checkpointCol : Text) : Text :=
  let schema := if config.schema = [] then ("public" : Text) else config.schema
  ("SELECT MAX(" : Text) ++ checkpointCol ++ (") FROM " : Text) ++ schema ++ '.' :: config.table

/-- `_max_sql`. -/
def maxSql (config : TableSourceConfig) (native : Native) (checkpointCol : Text) :
    Except PyExc (Option CheckpointValue) := do
  let row ← native.selectMax (maxSqlStatement config checkpointCol)
  parseRow row

/-- `_max_mongodb`. -/
def maxMongodb (native : Native) (checkpointCol : Text) :
    Except PyExc (Option CheckpointValue) := do
  let maxVal ← native.groupMax ('$' :: checkpointCol)
  parseRow maxVal

/-- One round of the loop of `_max_dynamodb`. -/
def maxItem (maxVal : Option CheckpointValue) (attr : AttributeValue) :
    Except PyExc (Option CheckpointValue) :=
  match attr.raw with
  | none => .ok maxVal
  | some raw =>
    let candidate := parseText raw
    match maxVal with
    | none => .ok (some candidate)
    | some m => do
      let greater ← candidate.gt m
      return if greater then some candidate else some m

/-- `_max_dynamodb`. -/
def maxDynamodb (native : Native) (checkpointCol : Text) :
    Except PyExc (Option CheckpointValue) := do
  let pages ← native.scan checkpointCol
  pages.flatten.foldlM maxItem none

/-- The statement of `_max_cassandra`. -/
def maxCassandraStatement (config : TableSourceConfig) (checkpointCol : Text) : Text :=
  ("SELECT MAX(" : Text) ++ checkpointCol ++ (") FROM " : Text) ++ config.database ++
    '.' :: config.table

/-- `_max_cassandra`. -/
def maxCassandra (config : TableSourceConfig) (native : Native) (checkpointCol : Text) :
    Except PyExc (Option CheckpointValue) := do
  let row ← native.selectMax (maxCassandraStatement config checkpointCol)
  parseRow row

/-- `_max_file`: the latest modification time. -/
def maxFile (readType : ReadAdapterType) (config : PathSourceConfig) (native : Native) :
    Except PyExc (Option CheckpointValue) :=
  if readType = .s3 then do
    let pages ← native.lastModified config.path
    let latest := pages.flatten.foldl (fun (latest : Option DateTime) ts =>
      match latest with
      | none => some ts
      | some l => if ts.instant > l.instant then some ts else some l) none
    return latest.map .datetime
  else do
    let (returncode, stdout) ← native.hdfsStat config.path
    if returncode = 0 ∧ strip stdout ≠ [] then
      parseCheckpoint (.text (((strip stdout).splitOn '\n').getLastD []))
    else return none

/-- The `AttributeError` of a helper that is given the wrong kind of configuration. -/
def wrongConfig : Except PyExc (Option CheckpointValue) :=
  .error (.external "object has no such attribute")

/-- The body of the second `try` block of `_fetch_checkpoint_to`. -/
def nativeMax (readType : ReadAdapterType) (config : SourceConfig) (native : Native)
    (checkpointCol : Text) : Except PyExc (Option CheckpointValue) :=
  match readType, config with
  | .sql, .table c | .mysql, .table c => maxSql c native checkpointCol
  | .nosql, .table _ => maxMongodb native checkpointCol
  | .dynamodb, .table _ => maxDynamodb native checkpointCol
  | .cassandra, .table c => maxCassandra c native checkpointCol
  | .file, .path c => maxFile .file c native
  | .s3, .path c => maxFile .s3 c native
  | _, _ => wrongConfig

/-- `except Exception`: the failure is logged and the value is `None`. -/
def swallow (value : Except PyExc (Option CheckpointValue)) : Option CheckpointValue :=
  match value with
  | .ok v => v
  | .error _ => none

/-- `_fetch_checkpoint_to`. -/
def fetchCheckpointTo (readType : ReadAdapterType) (config : SourceConfig) (native : Native) :
    Option CheckpointValue :=
  if readType = .kafka then
    swallow (match config with
      | .kafka c => (maxKafka c.topic native.broker).map fun text => some (.str text)
      | _ => wrongConfig)
  else
    match config.checkpointColumn with
    | none | some [] => none
    | some checkpointCol => swallow (nativeMax readType config native checkpointCol)

/-- What `InitOperator` gets from Airflow, OpenBao, the store and the source. -/
structure Env where
  /-- `context["dag"].dag_id`. -/
  dagId : Text
  /-- `context["run_id"]`. -/
  runId : Text
  /-- `context["data_interval_start"]`. -/
  dataIntervalStart : DateTime
  /-- `openbao.get_secret`. -/
  getSecret : Text → Except PyExc Secret
  /-- The row of the DAG in `public.checkpoints`. -/
  checkpointRow : Except PyExc (Option RawValue)
  /-- The native clients. -/
  native : Native

/-- The metric credentials: fetched when the metric section has a nonempty reference. -/
def metricCredentials (env : Env) (metric : MetricSection) : Except PyExc Secret :=
  match metric.credentialRef with
  | none | some [] => .ok {}
  | some ref => env.getSecret ref

/-- The configurations of a run, before the connection details are injected. -/
def buildConfigs (env : Env) (readType : ReadAdapterType) (source : SourceSection)
    (sink : SinkSection) : Except PyExc (SourceConfig × SinkConfig) := do
  let sourceConfig ← SourceConfigFactory.create readType source
  let credentialRef ← requireKey "credential_ref" sink.credentialRef
  let sourceSystemName ← requireKey "source_system_name" sink.sourceSystemName
  let sinkConfig ← SinkConfigFactory.create credentialRef sourceSystemName sourceConfig
    env.dataIntervalStart.naive.date env.dataIntervalStart env.runId
    (some (sink.extra.getD [])) (sink.fileFormat.getD "parquet")
  return (sourceConfig, sinkConfig)

/-- `InitOperator.execute`, up to the context that is pushed. The sink configuration
refers to the source configuration object, so it sees the injected details. -/
def execute (env : Env) (cfg : PipelineConfig) : Except PyExc RunContext := do
  let readType ← requireKey "read_type" cfg.readType >>= ReadAdapterType.ofValue
  let writeType ← requireKey "write_type" cfg.writeType >>= WriteAdapterType.ofValue
  let metricType ← MetricAdapterType.ofValue (cfg.metricType.getD "cloud_queue")
  let source ← requireKey "source" cfg.source
  let sink ← requireKey "sink" cfg.sink
  let (sourceConfig, sinkConfig) ← buildConfigs env readType source sink
  let sourceCredentials ← env.getSecret sourceConfig.credentialRef
  let sourceConfig ← SourceConfigFactory.injectConnection sourceConfig
    sourceCredentials.toConnectionDict
  let sinkCredentials ← env.getSecret sinkConfig.credentialRef
  let sinkConfig := SinkConfigFactory.injectConnection { sinkConfig with sourceConfig }
    sinkCredentials
  let metric := cfg.metric.getD {}
  let metricCredentials ← metricCredentials env metric
  let row ← env.checkpointRow
  let checkpointFrom ← parseRow row
  return {
    dagId := env.dagId
    runId := env.runId
    ingestionDate := env.dataIntervalStart.naive.date
    ingestionTime := env.dataIntervalStart
    readType, writeType, metricType, sourceConfig, sinkConfig
    sourceCredentials, sinkCredentials, metricCredentials
    metricConfigRaw := metric
    checkpointFrom
    checkpointTo := fetchCheckpointTo readType sourceConfig env.native
    countRecords := cfg.countRecords.getD false }

end InitOperator

/-! ### What the init task computes -/

namespace InitOperator

/-- A parsed row is stable. -/
theorem parseRow_stable {row : Option RawValue} {v : CheckpointValue}
    (h : parseRow row = .ok (some v)) : v.Stable := by
  cases row with
  | none => simp [parseRow] at h
  | some raw => exact parseCheckpoint_stable h

/-- The loop over the items of a scan keeps a stable maximum. -/
theorem foldlM_maxItem_stable {items : List AttributeValue} {m m' : Option CheckpointValue}
    (hm : ∀ v, m = some v → v.Stable) (h : items.foldlM maxItem m = .ok m') :
    ∀ v, m' = some v → v.Stable := by
  induction items generalizing m with
  | nil =>
    obtain rfl : m = m' := Except.ok.inj h
    exact hm
  | cons attr items ih =>
    rw [List.foldlM_cons] at h
    obtain ⟨m₁, hitem, hrest⟩ := bind_eq_ok_iff.mp h
    refine ih ?_ hrest
    unfold maxItem at hitem
    intro v hv
    split at hitem
    · obtain rfl := Except.ok.inj hitem
      exact hm v hv
    · rename_i raw _
      have hraw := parseText_stable raw
      dsimp only at hitem
      split at hitem
      · obtain rfl := Except.ok.inj hitem
        obtain rfl := Option.some.inj hv
        exact hraw
      · rename_i w _
        obtain ⟨greater, -, hitem⟩ := bind_eq_ok_iff.mp hitem
        obtain rfl := Except.ok.inj hitem
        cases greater
        · exact hm v hv
        · obtain rfl := Option.some.inj hv
          exact hraw

/-- The maximum of every source kind is stable. -/
theorem nativeMax_stable {readType : ReadAdapterType} {config : SourceConfig} {native : Native}
    {checkpointCol : Text} {v : CheckpointValue}
    (h : nativeMax readType config native checkpointCol = .ok (some v)) : v.Stable := by
  have hfile {t : ReadAdapterType} {c : PathSourceConfig}
      (h : maxFile t c native = .ok (some v)) : v.Stable := by
    unfold maxFile at h
    split at h
    · obtain ⟨pages, -, h⟩ := bind_eq_ok_iff.mp h
      obtain ⟨d, -, rfl⟩ := Option.map_eq_some_iff.mp (Except.ok.inj h)
      trivial
    · obtain ⟨⟨returncode, stdout⟩, -, h⟩ := bind_eq_ok_iff.mp h
      dsimp only at h
      split at h
      · exact parseCheckpoint_stable h
      · simp at h
  unfold nativeMax at h
  split at h
  · obtain ⟨row, -, h⟩ := bind_eq_ok_iff.mp h
    exact parseRow_stable h
  · obtain ⟨row, -, h⟩ := bind_eq_ok_iff.mp h
    exact parseRow_stable h
  · obtain ⟨row, -, h⟩ := bind_eq_ok_iff.mp h
    exact parseRow_stable h
  · obtain ⟨pages, -, h⟩ := bind_eq_ok_iff.mp h
    exact foldlM_maxItem_stable (by simp) h v rfl
  · obtain ⟨row, -, h⟩ := bind_eq_ok_iff.mp h
    exact parseRow_stable h
  · exact hfile h
  · exact hfile h
  · simp [wrongConfig] at h

/-- **Every `checkpoint_to` is stable**: integers, timestamps, raw strings that the parser
returned, and offset snapshots. -/
theorem fetchCheckpointTo_stable {readType : ReadAdapterType} {config : SourceConfig}
    {native : Native} {v : CheckpointValue}
    (h : fetchCheckpointTo readType config native = some v) : v.Stable := by
  have hswallow {x : Except PyExc (Option CheckpointValue)} (h : swallow x = some v) :
      x = .ok (some v) := by
    cases x with
    | ok w => exact congrArg Except.ok h
    | error e => simp [swallow] at h
  unfold fetchCheckpointTo at h
  split at h
  · have hkafka := hswallow h
    split at hkafka
    · obtain ⟨text, htext, hv⟩ := map_eq_ok_iff.mp hkafka
      obtain rfl := Option.some.inj hv
      exact parseText_maxKafka htext
    · simp [wrongConfig] at hkafka
  · split at h
    · simp at h
    · simp at h
    · exact nativeMax_stable (hswallow h)

/-- Without a connection to the source there is no `checkpoint_to`. -/
theorem fetchCheckpointTo_down {readType : ReadAdapterType} {config : SourceConfig} :
    fetchCheckpointTo readType config Native.down = none := by
  have hnative (col : Text) : ∃ e, nativeMax readType config Native.down col = .error e := by
    unfold nativeMax
    split <;> exact ⟨_, rfl⟩
  unfold fetchCheckpointTo
  split
  · cases config <;> rfl
  · split
    · rfl
    · rfl
    · rename_i col _ _
      obtain ⟨e, he⟩ := hnative col
      rw [he]
      rfl

/-- What the init task puts into the context of a run. -/
structure Builds (env : Env) (cfg : PipelineConfig) (ctx : RunContext) : Prop where
  /-- The DAG is the one of the task. -/
  dag : ctx.dagId = env.dagId
  /-- The run is the one of the task. -/
  run : ctx.runId = env.runId
  /-- The date is the local date of the interval start. -/
  date : ctx.ingestionDate = env.dataIntervalStart.naive.date
  /-- The time is the interval start. -/
  time : ctx.ingestionTime = env.dataIntervalStart
  /-- The parts agree. -/
  coherent : ctx.Coherent
  /-- The sink has the `extra` of the pipeline file. -/
  sink_extra : ctx.sinkConfig.extra = cfg.sinkExtra

/-- The init task builds a context from its run and its pipeline file. -/
theorem builds_of_execute {env : Env} {cfg : PipelineConfig} {ctx : RunContext}
    (h : execute env cfg = .ok ctx) : Builds env cfg ctx := by
  unfold execute at h
  obtain ⟨readType, -, h⟩ := bind_eq_ok_iff.mp h
  obtain ⟨writeType, -, h⟩ := bind_eq_ok_iff.mp h
  obtain ⟨metricType, -, h⟩ := bind_eq_ok_iff.mp h
  obtain ⟨source, -, h⟩ := bind_eq_ok_iff.mp h
  obtain ⟨sink, hsection, h⟩ := bind_eq_ok_iff.mp h
  obtain ⟨⟨sourceConfig₀, sinkConfig₀⟩, hconfigs, h⟩ := bind_eq_ok_iff.mp h
  obtain ⟨sourceCredentials, -, h⟩ := bind_eq_ok_iff.mp h
  obtain ⟨sourceConfig, hinject, h⟩ := bind_eq_ok_iff.mp h
  obtain ⟨sinkCredentials, -, h⟩ := bind_eq_ok_iff.mp h
  obtain ⟨metricCredentials, -, h⟩ := bind_eq_ok_iff.mp h
  obtain ⟨row, -, h⟩ := bind_eq_ok_iff.mp h
  obtain ⟨checkpointFrom, -, h⟩ := bind_eq_ok_iff.mp h
  obtain rfl := Except.ok.inj h
  obtain ⟨source', hsource, hconfigs⟩ := bind_eq_ok_iff.mp hconfigs
  obtain ⟨credentialRef, -, hconfigs⟩ := bind_eq_ok_iff.mp hconfigs
  obtain ⟨sourceSystemName, -, hconfigs⟩ := bind_eq_ok_iff.mp hconfigs
  obtain ⟨sink', hsink, hconfigs⟩ := bind_eq_ok_iff.mp hconfigs
  obtain ⟨rfl, rfl⟩ := Prod.mk.inj (Except.ok.inj hconfigs)
  obtain ⟨u, hvalid, hsink⟩ := bind_eq_ok_iff.mp hsink
  obtain rfl := Except.ok.inj hsink
  refine ⟨rfl, rfl, rfl, rfl, ⟨SourceConfigFactory.builtFor_of_injectConnection
    (SourceConfigFactory.builtFor_of_create hsource) hinject, ?_, rfl, rfl, rfl, rfl⟩, ?_⟩
  · rw [SinkConfigFactory.validate_eq_ok_iff] at hvalid ⊢
    exact ⟨hvalid.1, (SourceConfigFactory.isTableOrPath_of_injectConnection hinject).trans hvalid.2⟩
  · cases hcfg : cfg.sink with
    | none => simp [hcfg, requireKey] at hsection
    | some s =>
      obtain rfl : s = sink := by simpa [hcfg, requireKey] using hsection
      simp [SinkConfigFactory.injectConnection, PipelineConfig.sinkExtra, hcfg]

/-- The context of a run is coherent. -/
theorem coherent_of_execute {env : Env} {cfg : PipelineConfig} {ctx : RunContext}
    (h : execute env cfg = .ok ctx) : ctx.Coherent :=
  (builds_of_execute h).coherent

end InitOperator

end BatchIngestion
