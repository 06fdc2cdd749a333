import BatchIngestion.Config
import BatchIngestion.Library.Fallible

/-!
# The configuration factories

`SourceConfigFactory` and `SinkConfigFactory` build the configuration objects
from keyword arguments and inject what OpenBao adds later. They reject missing
fields, and the sink factory rejects source kinds it has no path for.
-/

namespace BatchIngestion

open Python Library

/-- `repr` of a list of plain names. -/
def listRepr (names : List Text) : Text :=
  '[' :: ((", ".toList).intercalate (names.map fun name => '\'' :: (name ++ ['\''])) ++ [']'])

/-- The names of the fields whose value is empty. -/
def missingFields (fields : Dict Text Text) : List Text :=
  (fields.filter fun field => field.2 = []).map Prod.fst

/-- No field is missing exactly when every value is nonempty. -/
theorem missingFields_eq_nil_iff {fields : Dict Text Text} :
    missingFields fields = [] ↔ ∀ field ∈ fields, field.2 ≠ [] := by
  simp [missingFields, List.filter_eq_nil_iff]

/-- A required key of a dictionary, or the `KeyError`. -/
def requireKey {α : Type} (key : Text) (value : Option α) : Except PyExc α :=
  match value with
  | some v => .ok v
  | none => .error (.keyError key)

/-- The key is there exactly when its value is returned. -/
theorem requireKey_eq_ok_iff {α : Type} {key : Text} {value : Option α} {v : α} :
    requireKey key value = .ok v ↔ value = some v := by
  cases value <;> simp [requireKey]

/-- A required positional argument of `create`, or the `TypeError`. -/
def requireArgument {α : Type} (name : Text) (value : Option α) : Except PyExc α :=
  match value with
  | some v => .ok v
  | none => .error (.typeError
      (("create() missing 1 required positional argument: '" : Text) ++ name ++ ['\'']))

namespace SourceConfigFactory

/-- `_require`. -/
def require (fields : Dict Text Text) : Except PyExc Unit :=
  if missingFields fields = [] then .ok ()
  else .error (.valueError
    (("Missing required SourceConfig field(s): " : Text) ++ listRepr (missingFields fields)))

/-- `_build_table_config`. -/
def buildTableConfig (credentialRef : Text) (kwargs : SourceSection) :
    Except PyExc TableSourceConfig := do
  let database := kwargs.database.getD ""
  let table := kwargs.table.getD ""
  require [("database", database), ("table", table)]
  return {
    credentialRef, database, table
    schema := kwargs.schema.getD "default"
    query := kwargs.query
    checkpointColumn := kwargs.checkpointColumn
    extra := kwargs.extra.getD []
    readOptions := kwargs.readOptions.getD []
    host := ""
    port := 0 }

/-- `_build_path_config`. -/
def buildPathConfig (credentialRef : Text) (kwargs : SourceSection) :
    Except PyExc PathSourceConfig :=
  return {
    credentialRef
    fileFormat := kwargs.fileFormat.getD "parquet"
    checkpointColumn := kwargs.checkpointColumn
    extra := kwargs.extra.getD []
    readOptions := kwargs.readOptions.getD []
    path := "" }

/-- `_build_kafka_config`. -/
def buildKafkaConfig (credentialRef : Text) (kwargs : SourceSection) :
    Except PyExc KafkaSourceConfig := do
  let topic := kwargs.topic.getD ""
  require [("topic", topic)]
  return {
    credentialRef, topic
    groupId := kwargs.groupId.getD ""
    startingOffsets := kwargs.startingOffsets.getD "earliest"
    valueFormat := kwargs.valueFormat.getD "json"
    extra := kwargs.extra.getD []
    readOptions := kwargs.readOptions.getD []
    bootstrapServers := "" }

/-- `SourceConfigFactory.create(adapter_type, **kwargs)`. Every adapter type belongs to
one of the three sets of types, so the last branch of the source is dead. -/
def create (adapterType : ReadAdapterType) (kwargs : SourceSection) :
    Except PyExc SourceConfig := do
  let credentialRef ← requireArgument "credential_ref" kwargs.credentialRef
  match adapterType with
  | .sql | .mysql | .nosql | .dynamodb | .cassandra =>
    (buildTableConfig credentialRef kwargs).map .table
  | .file | .s3 => (buildPathConfig credentialRef kwargs).map .path
  | .kafka => (buildKafkaConfig credentialRef kwargs).map .kafka

/-- `inject_connection` for a table source. -/
def injectTable (config : TableSourceConfig) (credentials : ConnectionDict) :
    Except PyExc TableSourceConfig := do
  let port ← (credentials.port.map RawPort.toInt).getD (.ok config.port)
  return { config with
    host := credentials.host.getD config.host
    port
    extra := credentials.jars.elim config.extra fun jars => Dict.set config.extra "jars" jars }

/-- `SourceConfigFactory.inject_connection`. A key that is missing leaves the field as it
is. -/
def injectConnection (config : SourceConfig) (credentials : ConnectionDict) :
    Except PyExc SourceConfig :=
  match config with
  | .table config => (injectTable config credentials).map .table
  | .path config => .ok (.path { config with path := credentials.path.getD config.path })
  | .kafka config => .ok (.kafka { config with
      bootstrapServers := credentials.bootstrapServers.getD config.bootstrapServers })

end SourceConfigFactory

/-- `isinstance(source_config, (TableSourceConfig, PathSourceConfig))`. -/
def SourceConfig.isTableOrPath : SourceConfig → Bool
  | .table _ | .path _ => true
  | .kafka _ => false

namespace SinkConfigFactory

/-- The exception for a source that is neither a table nor a path. -/
def sourceError (sourceConfig : SourceConfig) : PyExc :=
  .typeError (("source_config must be TableSourceConfig or PathSourceConfig, got: " : Text) ++
    sourceConfig.className)

/-- `_validate`. The date and the time of a run are never `None`. -/
def validate (credentialRef sourceSystemName runId : Text) (sourceConfig : SourceConfig) :
    Except PyExc Unit :=
  let missing := missingFields [("credential_ref", credentialRef),
    ("source_system_name", sourceSystemName), ("run_id", runId)]
  if missing ≠ [] then
    .error (.valueError (("Missing required SinkConfig field(s): " : Text) ++ listRepr missing))
  else if sourceConfig.isTableOrPath then .ok ()
  else .error (sourceError sourceConfig)

/-- `SinkConfigFactory.create`. -/
def create (credentialRef sourceSystemName : Text) (sourceConfig : SourceConfig)
    (ingestionDate : Date) (ingestionTime : DateTime) (runId : Text)
    (extra : Option (Dict Text Yaml)) (fileFormat : Text) : Except PyExc SinkConfig := do
  validate credentialRef sourceSystemName runId sourceConfig
  return {
    endpoint := ""
    credentialRef, sourceSystemName, sourceConfig, ingestionDate, ingestionTime, runId
    extra := extra.getD []
    fileFormat }

/-- `SinkConfigFactory.inject_connection`. -/
def injectConnection (config : SinkConfig) (credentials : Secret) : SinkConfig :=
  { config with endpoint := credentials.endpoint.getD config.endpoint }

end SinkConfigFactory

/-! ### What the factories accept -/

/-- Required fields are accepted exactly when they are nonempty. -/
theorem SourceConfigFactory.require_eq_ok_iff {fields : Dict Text Text} :
    require fields = .ok () ↔ ∀ field ∈ fields, field.2 ≠ [] := by
  rw [← missingFields_eq_nil_iff, require]
  split <;> simp_all

/-- A sink is accepted exactly for nonempty names and a table or path source. -/
theorem SinkConfigFactory.validate_eq_ok_iff {credentialRef sourceSystemName runId : Text}
    {sourceConfig : SourceConfig} :
    validate credentialRef sourceSystemName runId sourceConfig = .ok () ↔
      (credentialRef ≠ [] ∧ sourceSystemName ≠ [] ∧ runId ≠ []) ∧
        sourceConfig.isTableOrPath = true := by
  have hmissing : missingFields [("credential_ref", credentialRef),
      ("source_system_name", sourceSystemName), ("run_id", runId)] = [] ↔
      credentialRef ≠ [] ∧ sourceSystemName ≠ [] ∧ runId ≠ [] := by
    simp [missingFields_eq_nil_iff]
  rw [← hmissing, validate]
  split
  · simp_all
  · split <;> simp_all

/-- The kind of a created source configuration is the kind of its adapter type. -/
theorem SourceConfigFactory.isTableOrPath_of_create {adapterType : ReadAdapterType}
    {kwargs : SourceSection} {config : SourceConfig} (h : create adapterType kwargs = .ok config) :
    config.isTableOrPath = true ↔ adapterType ≠ .kafka := by
  unfold create at h
  obtain ⟨ref, -, h⟩ := bind_eq_ok_iff.mp h
  cases adapterType <;> obtain ⟨c, -, rfl⟩ := map_eq_ok_iff.mp h <;>
    simp [SourceConfig.isTableOrPath]

/-- Injecting connection details keeps the kind of the configuration. -/
theorem SourceConfigFactory.isTableOrPath_of_injectConnection {config config' : SourceConfig}
    {credentials : ConnectionDict} (h : injectConnection config credentials = .ok config') :
    config'.isTableOrPath = config.isTableOrPath := by
  cases config with
  | table c =>
    obtain ⟨c', -, rfl⟩ := map_eq_ok_iff.mp h
    rfl
  | path c =>
    obtain rfl := Except.ok.inj h
    rfl
  | kafka c =>
    obtain rfl := Except.ok.inj h
    rfl

end BatchIngestion
