import BatchIngestion.Checkpoint
import BatchIngestion.ConfigFactory

/-!
# The run context and its XCom envelope

`RunContext.to_dict` takes a context apart with `dataclasses.asdict`;
`RunContext.from_dict` does not mirror it but rebuilds the nested configurations
through the factories. The decoder is computed here on every context that is
coherent, as the contexts of `InitOperator` are.
-/

namespace BatchIngestion

open Python Library

/-- `RunContext`. -/
structure RunContext where
  /-- The DAG, which is the key of the checkpoint. -/
  dagId : Text
  /-- The Airflow run. -/
  runId : Text
  /-- The date partition of the sink path. -/
  ingestionDate : Date
  /-- The time partition of the sink path. -/
  ingestionTime : DateTime
  /-- The kind of source adapter. -/
  readType : ReadAdapterType
  /-- The kind of sink adapter. -/
  writeType : WriteAdapterType
  /-- The kind of metric adapter. -/
  metricType : MetricAdapterType
  /-- The source configuration. -/
  sourceConfig : SourceConfig
  /-- The sink configuration. -/
  sinkConfig : SinkConfig
  /-- The source credentials. -/
  sourceCredentials : Secret
  /-- The sink credentials. -/
  sinkCredentials : Secret
  /-- The metric credentials. -/
  metricCredentials : Secret
  /-- The `metric` section of the pipeline file. -/
  metricConfigRaw : MetricSection
  /-- The last saved checkpoint; `none` is a full read. -/
  checkpointFrom : Option CheckpointValue
  /-- The maximum of the checkpoint column. -/
  checkpointTo : Option CheckpointValue
  /-- Whether the rows are counted. -/
  countRecords : Bool

/-- A value of a sink configuration taken apart. -/
inductive SinkValue
  /-- A string. -/
  | text (value : Text)
  /-- A dictionary. -/
  | dict (value : Dict Text Yaml)
  /-- The nested source configuration. -/
  | source (value : SourceSection)

/-- The string of a value. -/
def SinkValue.text? : SinkValue → Option Text
  | .text s => some s
  | _ => none

/-- The dictionary of a value. -/
def SinkValue.dict? : SinkValue → Option (Dict Text Yaml)
  | .dict d => some d
  | _ => none

/-- The plain dictionary of a run context. -/
structure ContextDict where
  /-- `dag_id`. -/
  dagId : Text
  /-- `run_id`. -/
  runId : Text
  /-- `ingestion_date`. -/
  ingestionDate : Text
  /-- `ingestion_time`. -/
  ingestionTime : Text
  /-- `read_type`. -/
  readType : Text
  /-- `write_type`. -/
  writeType : Text
  /-- `metric_type`. -/
  metricType : Text
  /-- `source_config`. -/
  sourceConfig : SourceSection
  /-- `sink_config`. -/
  sinkConfig : Dict Text SinkValue
  /-- `source_credentials`. -/
  sourceCredentials : Secret
  /-- `sink_credentials`. -/
  sinkCredentials : Secret
  /-- `metric_credentials`. -/
  metricCredentials : Secret
  /-- `metric_config_raw`. -/
  metricConfigRaw : MetricSection
  /-- `checkpoint_from`. -/
  checkpointFrom : Option TaggedCheckpoint
  /-- `checkpoint_to`. -/
  checkpointTo : Option TaggedCheckpoint
  /-- `count_records`. -/
  countRecords : Bool

/-- `dataclasses.asdict(source_config)`. -/
def SourceConfig.asdict : SourceConfig → SourceSection
  | .table c => {
      credentialRef := some c.credentialRef
      extra := some c.extra
      readOptions := some c.readOptions
      host := some c.host
      port := some (.int c.port)
      database := some c.database
      schema := some c.schema
      table := some c.table
      query := c.query
      checkpointColumn := c.checkpointColumn }
  | .path c => {
      credentialRef := some c.credentialRef
      extra := some c.extra
      readOptions := some c.readOptions
      path := some c.path
      fileFormat := some c.fileFormat
      checkpointColumn := c.checkpointColumn }
  | .kafka c => {
      credentialRef := some c.credentialRef
      extra := some c.extra
      readOptions := some c.readOptions
      bootstrapServers := some c.bootstrapServers
      topic := some c.topic
      groupId := some c.groupId
      startingOffsets := some c.startingOffsets
      valueFormat := some c.valueFormat }

/-- `dataclasses.asdict(sink_config)` with the date and the time as ISO texts. -/
def SinkConfig.asdict (c : SinkConfig) : Dict Text SinkValue := [
  ("endpoint", .text c.endpoint),
  ("credential_ref", .text c.credentialRef),
  ("source_system_name", .text c.sourceSystemName),
  ("ingestion_date", .text (dateIsoformat c.ingestionDate)),
  ("ingestion_time", .text (isoformat 'T' c.ingestionTime)),
  ("run_id", .text c.runId),
  ("source_config", .source c.sourceConfig.asdict),
  ("extra", .dict c.extra),
  ("file_format", .text c.fileFormat)]

/-- `SinkConfigFactory.create(..., **kwargs)`: the keyword arguments of a dictionary, next
to those that are passed by name. -/
def SinkConfigFactory.createFrom (kwargs : Dict Text SinkValue) (sourceConfig : SourceConfig)
    (ingestionDate : Date) (ingestionTime : DateTime) (runId : Text) : Except PyExc SinkConfig := do
  let credentialRef ← requireArgument "credential_ref"
    ((Dict.get? kwargs "credential_ref".toList).bind SinkValue.text?)
  let sourceSystemName ← requireArgument "source_system_name"
    ((Dict.get? kwargs "source_system_name".toList).bind SinkValue.text?)
  create credentialRef sourceSystemName sourceConfig ingestionDate ingestionTime runId
    ((Dict.get? kwargs "extra".toList).bind SinkValue.dict?)
    (((Dict.get? kwargs "file_format".toList).bind SinkValue.text?).getD "parquet")

/-- An ISO text that is read, or the `ValueError`. -/
def isoOrValueError {α : Type} (value : Option α) (text : Text) : Except PyExc α :=
  match value with
  | some v => .ok v
  | none => .error (.valueError (("Invalid isoformat string: '" : Text) ++ text ++ ['\'']))

namespace RunContext

/-- `RunContext.to_dict`. -/
def toDict (ctx : RunContext) : ContextDict where
  dagId := ctx.dagId
  runId := ctx.runId
  ingestionDate := dateIsoformat ctx.ingestionDate
  ingestionTime := isoformat 'T' ctx.ingestionTime
  readType := ctx.readType.value
  writeType := ctx.writeType.value
  metricType := ctx.metricType.value
  sourceConfig := ctx.sourceConfig.asdict
  sinkConfig := ctx.sinkConfig.asdict
  sourceCredentials := ctx.sourceCredentials
  sinkCredentials := ctx.sinkCredentials
  metricCredentials := ctx.metricCredentials
  metricConfigRaw := ctx.metricConfigRaw
  checkpointFrom := serialiseCheckpoint ctx.checkpointFrom
  checkpointTo := serialiseCheckpoint ctx.checkpointTo
  countRecords := ctx.countRecords

/-- The keys of the sink dictionary that `from_dict` does not pass on to the factory. -/
def droppedSinkKeys : List Text :=
  ["source_config", "ingestion_date", "ingestion_time", "run_id", "endpoint", "extra"].map
    String.toList

/-- `RunContext.from_dict`. -/
def fromDict (data : ContextDict) : Except PyExc RunContext := do
  let readType ← ReadAdapterType.ofValue data.readType
  let writeType ← WriteAdapterType.ofValue data.writeType
  let metricType ← MetricAdapterType.ofValue data.metricType
  let ingestionDate ← isoOrValueError (dateFromisoformat data.ingestionDate) data.ingestionDate
  let ingestionTime ← isoOrValueError (fromisoformat data.ingestionTime) data.ingestionTime
  let sourceConfig ← SourceConfigFactory.create readType data.sourceConfig
  let sourceConfig ← SourceConfigFactory.injectConnection sourceConfig
    data.sourceConfig.toConnectionDict
  let sinkRaw := data.sinkConfig.filter fun item => !droppedSinkKeys.contains item.1
  let sinkConfig ← SinkConfigFactory.createFrom sinkRaw sourceConfig ingestionDate ingestionTime
    data.runId
  let endpoint := ((Dict.get? data.sinkConfig "endpoint".toList).bind SinkValue.text?).getD []
  let checkpointFrom ← deserialiseCheckpoint data.checkpointFrom
  let checkpointTo ← deserialiseCheckpoint data.checkpointTo
  return {
    dagId := data.dagId
    runId := data.runId
    ingestionDate, ingestionTime, readType, writeType, metricType, sourceConfig
    sinkConfig := { sinkConfig with endpoint }
    sourceCredentials := data.sourceCredentials
    sinkCredentials := data.sinkCredentials
    metricCredentials := data.metricCredentials
    metricConfigRaw := data.metricConfigRaw
    checkpointFrom, checkpointTo
    countRecords := data.countRecords }

end RunContext

/-! ### Decoding what was encoded -/

/-- The source configurations that the factory builds for an adapter type. -/
def SourceConfig.BuiltFor (t : ReadAdapterType) : SourceConfig → Prop
  | .table c => (t = .sql ∨ t = .mysql ∨ t = .nosql ∨ t = .dynamodb ∨ t = .cassandra) ∧
      c.database ≠ [] ∧ c.table ≠ []
  | .path _ => t = .file ∨ t = .s3
  | .kafka c => t = .kafka ∧ c.topic ≠ []

/-- The factory builds configurations of the right kind, with their required fields. -/
theorem SourceConfigFactory.builtFor_of_create {t : ReadAdapterType} {kwargs : SourceSection}
    {config : SourceConfig} (h : create t kwargs = .ok config) : config.BuiltFor t := by
  unfold create at h
  obtain ⟨ref, -, h⟩ := bind_eq_ok_iff.mp h
  have htable {c : TableSourceConfig} (hc : buildTableConfig ref kwargs = .ok c) :
      c.database ≠ [] ∧ c.table ≠ [] := by
    obtain ⟨u, hrequire, hc⟩ := bind_eq_ok_iff.mp hc
    obtain rfl := Except.ok.inj hc
    have := require_eq_ok_iff.mp hrequire
    simpa using this
  have hkafka {c : KafkaSourceConfig} (hc : buildKafkaConfig ref kwargs = .ok c) :
      c.topic ≠ [] := by
    obtain ⟨u, hrequire, hc⟩ := bind_eq_ok_iff.mp hc
    obtain rfl := Except.ok.inj hc
    have := require_eq_ok_iff.mp hrequire
    simpa using this
  cases t <;> obtain ⟨c, hc, rfl⟩ := map_eq_ok_iff.mp h <;>
    simp only [SourceConfig.BuiltFor, true_or, or_true, true_and]
  all_goals first | exact htable hc | exact hkafka hc

/-- Injecting connection details keeps the kind and the required fields. -/
theorem SourceConfigFactory.builtFor_of_injectConnection {t : ReadAdapterType}
    {config config' : SourceConfig} {credentials : ConnectionDict} (hconfig : config.BuiltFor t)
    (h : injectConnection config credentials = .ok config') : config'.BuiltFor t := by
  cases config with
  | table c =>
    obtain ⟨c', hc', rfl⟩ := map_eq_ok_iff.mp h
    obtain ⟨port, -, hc'⟩ := bind_eq_ok_iff.mp hc'
    obtain rfl := Except.ok.inj hc'
    exact hconfig
  | path c =>
    obtain rfl := Except.ok.inj h
    exact hconfig
  | kafka c =>
    obtain rfl := Except.ok.inj h
    exact hconfig

/-- A source configuration is rebuilt from its own dictionary. -/
theorem SourceConfig.rebuild_asdict {t : ReadAdapterType} {config : SourceConfig}
    (h : config.BuiltFor t) :
    (SourceConfigFactory.create t config.asdict >>= fun c =>
      SourceConfigFactory.injectConnection c config.asdict.toConnectionDict) = .ok config := by
  cases config with
  | table c =>
    obtain ⟨ht, hdatabase, htable⟩ := h
    have hbuild : SourceConfigFactory.buildTableConfig c.credentialRef (table c).asdict =
        .ok { c with host := [], port := 0 } := by
      have hrequire : SourceConfigFactory.require
          [("database", c.database), ("table", c.table)] = .ok () :=
        SourceConfigFactory.require_eq_ok_iff.mpr (by simp [hdatabase, htable])
      exact congrArg (· >>= fun _ => Except.ok { c with host := [], port := 0 }) hrequire
    have hcreate : SourceConfigFactory.create t (table c).asdict =
        .ok (.table { c with host := [], port := 0 }) := by
      rcases ht with rfl | rfl | rfl | rfl | rfl <;> exact
        congrArg (Except.map SourceConfig.table) hbuild
    rw [hcreate]
    rfl
  | path c =>
    rcases h with rfl | rfl <;> rfl
  | kafka c =>
    obtain ⟨rfl, htopic⟩ := h
    have hbuild : SourceConfigFactory.buildKafkaConfig c.credentialRef (kafka c).asdict =
        .ok { c with bootstrapServers := [] } := by
      have hrequire : SourceConfigFactory.require [("topic", c.topic)] = .ok () :=
        SourceConfigFactory.require_eq_ok_iff.mpr (by simp [htopic])
      exact congrArg (· >>= fun _ => Except.ok { c with bootstrapServers := [] }) hrequire
    have hcreate : SourceConfigFactory.create .kafka (kafka c).asdict =
        .ok (.kafka { c with bootstrapServers := [] }) :=
      congrArg (Except.map SourceConfig.kafka) hbuild
    rw [hcreate]
    rfl

/-- A sink configuration without its `extra`. -/
def SinkConfig.dropExtra (c : SinkConfig) : SinkConfig := { c with extra := [] }

/-- A sink configuration is rebuilt from its own dictionary, except for `extra`. -/
theorem SinkConfig.rebuild_asdict {c : SinkConfig}
    (h : SinkConfigFactory.validate c.credentialRef c.sourceSystemName c.runId c.sourceConfig =
      .ok ()) :
    SinkConfigFactory.createFrom
        (c.asdict.filter fun item => !RunContext.droppedSinkKeys.contains item.1) c.sourceConfig
        c.ingestionDate c.ingestionTime c.runId =
      .ok { c.dropExtra with endpoint := [] } := by
  let kwargs : Dict Text SinkValue := [("credential_ref", .text c.credentialRef),
    ("source_system_name", .text c.sourceSystemName), ("file_format", .text c.fileFormat)]
  have hfilter : (c.asdict.filter fun item => !RunContext.droppedSinkKeys.contains item.1) =
      kwargs := rfl
  have hcreate : SinkConfigFactory.create c.credentialRef c.sourceSystemName c.sourceConfig
      c.ingestionDate c.ingestionTime c.runId none c.fileFormat =
      .ok { c.dropExtra with endpoint := [] } := by
    rw [SinkConfigFactory.create, h]
    rfl
  rw [hfilter, ← hcreate]
  rfl

/-- The parts of a run context agree with each other, as `InitOperator` builds them. -/
structure RunContext.Coherent (ctx : RunContext) : Prop where
  /-- The source configuration fits the adapter type. -/
  source_built : ctx.sourceConfig.BuiltFor ctx.readType
  /-- The sink factory accepted the sink. -/
  sink_valid : SinkConfigFactory.validate ctx.sinkConfig.credentialRef
    ctx.sinkConfig.sourceSystemName ctx.runId ctx.sourceConfig = .ok ()
  /-- The sink refers to the same source configuration. -/
  sink_source : ctx.sinkConfig.sourceConfig = ctx.sourceConfig
  /-- The sink has the date of the run. -/
  sink_date : ctx.sinkConfig.ingestionDate = ctx.ingestionDate
  /-- The sink has the time of the run. -/
  sink_time : ctx.sinkConfig.ingestionTime = ctx.ingestionTime
  /-- The sink has the identifier of the run. -/
  sink_run : ctx.sinkConfig.runId = ctx.runId

/-- The sink of a coherent context has a table or path source. -/
theorem RunContext.Coherent.isTableOrPath {ctx : RunContext} (h : ctx.Coherent) :
    ctx.sinkConfig.sourceConfig.isTableOrPath = true := by
  rw [h.sink_source]
  exact (SinkConfigFactory.validate_eq_ok_iff.mp h.sink_valid).2

/-- **What the decoder gives back**: the context itself, with an empty sink `extra`. -/
theorem RunContext.fromDict_toDict {ctx : RunContext} (h : ctx.Coherent) :
    fromDict ctx.toDict = .ok { ctx with sinkConfig := ctx.sinkConfig.dropExtra } := by
  have hsource := SourceConfig.rebuild_asdict h.source_built
  obtain ⟨c, hcreate, hinject⟩ := bind_eq_ok_iff.mp hsource
  have hsink := SinkConfig.rebuild_asdict (c := ctx.sinkConfig) (by
    rw [h.sink_run, h.sink_source]
    exact h.sink_valid)
  rw [h.sink_source, h.sink_date, h.sink_time, h.sink_run] at hsink
  have hendpoint : ((Dict.get? ctx.sinkConfig.asdict "endpoint".toList).bind
      SinkValue.text?).getD [] = ctx.sinkConfig.endpoint := rfl
  simp only [fromDict, toDict, ReadAdapterType.ofValue_value, WriteAdapterType.ofValue_value,
    MetricAdapterType.ofValue_value, dateFromisoformat_dateIsoformat, fromisoformat_isoformat,
    isoOrValueError, ok_bind, hcreate, hinject, hsink, hendpoint,
    deserialiseCheckpoint_serialiseCheckpoint, pure_eq_ok]
  rfl

/-- What is decoded has a table or path source. -/
theorem RunContext.isTableOrPath_of_fromDict {data : ContextDict} {ctx : RunContext}
    (h : fromDict data = .ok ctx) : ctx.sinkConfig.sourceConfig.isTableOrPath = true := by
  unfold fromDict at h
  obtain ⟨readType, -, h⟩ := bind_eq_ok_iff.mp h
  obtain ⟨writeType, -, h⟩ := bind_eq_ok_iff.mp h
  obtain ⟨metricType, -, h⟩ := bind_eq_ok_iff.mp h
  obtain ⟨ingestionDate, -, h⟩ := bind_eq_ok_iff.mp h
  obtain ⟨ingestionTime, -, h⟩ := bind_eq_ok_iff.mp h
  obtain ⟨sourceConfig, -, h⟩ := bind_eq_ok_iff.mp h
  obtain ⟨sourceConfig, -, h⟩ := bind_eq_ok_iff.mp h
  obtain ⟨sinkConfig, hsink, h⟩ := bind_eq_ok_iff.mp h
  obtain ⟨checkpointFrom, -, h⟩ := bind_eq_ok_iff.mp h
  obtain ⟨checkpointTo, -, h⟩ := bind_eq_ok_iff.mp h
  obtain rfl := Except.ok.inj h
  obtain ⟨credentialRef, -, hsink⟩ := bind_eq_ok_iff.mp hsink
  obtain ⟨sourceSystemName, -, hsink⟩ := bind_eq_ok_iff.mp hsink
  obtain ⟨u, hvalid, hsink⟩ := bind_eq_ok_iff.mp hsink
  obtain rfl := Except.ok.inj hsink
  exact (SinkConfigFactory.validate_eq_ok_iff.mp hvalid).2

end BatchIngestion
