import BatchIngestion.Python.Dict
import BatchIngestion.Python.Text
import BatchIngestion.Python.Calendar

/-!
# Pipeline configuration

The adapter types, the configuration objects of sources and sinks, and the
dictionaries they are built from. A dictionary whose keys the code names is a
record with one optional field for each such key; `none` is a missing key.
-/

namespace BatchIngestion

open Python

/-- A value of a YAML document or of a JSON secret that the code only carries along. -/
inductive Yaml
  /-- `null`. -/
  | null
  /-- A boolean. -/
  | bool (value : Bool)
  /-- An integer. -/
  | int (value : ℤ)
  /-- A floating point number, by its text. -/
  | float (text : Text)
  /-- A string. -/
  | str (value : Text)
  /-- A sequence. -/
  | list (items : List Yaml)
  /-- A mapping. -/
  | dict (items : List (Text × Yaml))

/-! ### Adapter types -/

/-- `ReadAdapterType`. -/
inductive ReadAdapterType
  /-- PostgreSQL. -/
  | sql
  /-- MySQL. -/
  | mysql
  /-- MongoDB. -/
  | nosql
  /-- DynamoDB. -/
  | dynamodb
  /-- Cassandra. -/
  | cassandra
  /-- Hadoop HDFS. -/
  | file
  /-- S3. -/
  | s3
  /-- A batch snapshot of Kafka topics. -/
  | kafka
  deriving DecidableEq

/-- `WriteAdapterType`. -/
inductive WriteAdapterType
  /-- Hadoop HDFS. -/
  | hadoop
  /-- S3. -/
  | s3
  deriving DecidableEq

/-- `MetricAdapterType`. -/
inductive MetricAdapterType
  /-- SQS. -/
  | cloudQueue
  /-- Redis streams. -/
  | onpremQueue
  /-- Kafka. -/
  | kafkaQueue
  deriving DecidableEq

/-- The constructor of an `Enum` from a value: the member that has it. -/
def enumOf {α : Type} (enum : Text) (members : Dict Text α) (value : Text) : Except PyExc α :=
  match Dict.get? members value with
  | some member => .ok member
  | none => .error (.valueError ('\'' :: (value ++ ("' is not a valid " : Text) ++ enum)))

/-- `ReadAdapterType.value`. -/
def ReadAdapterType.value : ReadAdapterType → Text
  | .sql => "sql"
  | .mysql => "mysql"
  | .nosql => "nosql"
  | .dynamodb => "dynamodb"
  | .cassandra => "cassandra"
  | .file => "file"
  | .s3 => "s3"
  | .kafka => "kafka"

/-- `ReadAdapterType(value)`. -/
def ReadAdapterType.ofValue (value : Text) : Except PyExc ReadAdapterType :=
  enumOf "ReadAdapterType" ([.sql, .mysql, .nosql, .dynamodb, .cassandra, .file, .s3, .kafka].map
    fun member : ReadAdapterType => (member.value, member)) value

/-- `WriteAdapterType.value`. -/
def WriteAdapterType.value : WriteAdapterType → Text
  | .hadoop => "hadoop"
  | .s3 => "s3"

/-- `WriteAdapterType(value)`. -/
def WriteAdapterType.ofValue (value : Text) : Except PyExc WriteAdapterType :=
  enumOf "WriteAdapterType" ([.hadoop, .s3].map
    fun member : WriteAdapterType => (member.value, member)) value

/-- `MetricAdapterType.value`. -/
def MetricAdapterType.value : MetricAdapterType → Text
  | .cloudQueue => "cloud_queue"
  | .onpremQueue => "onprem_queue"
  | .kafkaQueue => "kafka_queue"

/-- `MetricAdapterType(value)`. -/
def MetricAdapterType.ofValue (value : Text) : Except PyExc MetricAdapterType :=
  enumOf "MetricAdapterType" ([.cloudQueue, .onpremQueue, .kafkaQueue].map
    fun member : MetricAdapterType => (member.value, member)) value

/-- The member that is found has the value. -/
theorem mem_of_enumOf {α : Type} {enum : Text} {members : Dict Text α} {value : Text} {member : α}
    (h : enumOf enum members value = .ok member) : (value, member) ∈ members := by
  unfold enumOf at h
  cases hget : Dict.get? members value with
  | none => simp [hget] at h
  | some found =>
    simp only [hget, Except.ok.injEq] at h
    exact h ▸ Dict.mem_of_get? hget

/-- A read adapter type is found by its value. -/
@[simp] theorem ReadAdapterType.ofValue_value (t : ReadAdapterType) :
    ReadAdapterType.ofValue t.value = .ok t := by
  cases t <;> rfl

/-- A read adapter type has the value it is found by. -/
theorem ReadAdapterType.value_of_ofValue {value : Text} {t : ReadAdapterType}
    (h : ReadAdapterType.ofValue value = .ok t) : value = t.value := by
  obtain ⟨member, -, hmember⟩ := List.mem_map.mp (mem_of_enumOf h)
  obtain ⟨rfl, rfl⟩ := Prod.mk.inj hmember
  rfl

/-- A write adapter type is found by its value. -/
@[simp] theorem WriteAdapterType.ofValue_value (t : WriteAdapterType) :
    WriteAdapterType.ofValue t.value = .ok t := by
  cases t <;> rfl

/-- A metric adapter type is found by its value. -/
@[simp] theorem MetricAdapterType.ofValue_value (t : MetricAdapterType) :
    MetricAdapterType.ofValue t.value = .ok t := by
  cases t <;> rfl

/-! ### Configuration objects -/

/-- `SourceConfig`: what all source kinds share. -/
structure SourceConfigBase where
  /-- The OpenBao key of the connection details and the credentials. -/
  credentialRef : Text
  /-- Additional parameters. -/
  extra : Dict Text Yaml
  /-- Options passed verbatim to the Spark reader. -/
  readOptions : Dict Text Yaml

/-- The read option of a name. Spark ignores the case of option names, and a later option
replaces an earlier one. -/
def SourceConfigBase.readOption (config : SourceConfigBase) (name : Text) : Option Yaml :=
  (config.readOptions.reverse.find? fun option =>
    option.1.map Char.toLower = name.map Char.toLower).map Prod.snd

/-- An option that is not set. -/
theorem SourceConfigBase.readOption_eq_none {config : SourceConfigBase} {name : Text}
    (h : ∀ option ∈ config.readOptions, option.1.map Char.toLower ≠ name.map Char.toLower) :
    config.readOption name = none := by
  rw [readOption, Option.map_eq_none_iff, List.find?_eq_none]
  intro option ho
  simpa using h option (List.mem_reverse.mp ho)

/-- `TableSourceConfig`: SQL databases and NoSQL stores. -/
structure TableSourceConfig extends SourceConfigBase where
  /-- The host, from OpenBao. -/
  host : Text
  /-- The port, from OpenBao. -/
  port : ℤ
  /-- The database or keyspace. -/
  database : Text
  /-- The schema. -/
  schema : Text
  /-- The table or collection. -/
  table : Text
  /-- A custom query that takes precedence over the table. -/
  query : Option Text
  /-- The column that tracks read progress. -/
  checkpointColumn : Option Text

/-- `PathSourceConfig`: files on HDFS or S3. -/
structure PathSourceConfig extends SourceConfigBase where
  /-- The file or directory, from OpenBao. -/
  path : Text
  /-- The format of the files. -/
  fileFormat : Text
  /-- The column that tracks read progress. -/
  checkpointColumn : Option Text

/-- `KafkaSourceConfig`: a batch snapshot of Kafka topics. -/
structure KafkaSourceConfig extends SourceConfigBase where
  /-- The brokers, from OpenBao. -/
  bootstrapServers : Text
  /-- The topic, or a comma-separated list of topics. -/
  topic : Text
  /-- The consumer group. -/
  groupId : Text
  /-- Where to start reading without a checkpoint. -/
  startingOffsets : Text
  /-- How message values are decoded. -/
  valueFormat : Text

/-- The subclasses of `SourceConfig`. -/
inductive SourceConfig
  /-- A table source. -/
  | table (config : TableSourceConfig)
  /-- A path source. -/
  | path (config : PathSourceConfig)
  /-- A Kafka source. -/
  | kafka (config : KafkaSourceConfig)

/-- `SinkConfig`. -/
structure SinkConfig where
  /-- The root URI of the sink, from OpenBao. -/
  endpoint : Text
  /-- The OpenBao key of the sink credentials. -/
  credentialRef : Text
  /-- The label of the origin system. -/
  sourceSystemName : Text
  /-- The date partition of the run. -/
  ingestionDate : Date
  /-- The time partition of the run. -/
  ingestionTime : DateTime
  /-- The identifier of the run. -/
  runId : Text
  /-- The source, for the base path segments. -/
  sourceConfig : SourceConfig
  /-- Additional sink parameters. -/
  extra : Dict Text Yaml
  /-- The output format. -/
  fileFormat : Text

/-- The name of the class of a source configuration. -/
def SourceConfig.className : SourceConfig → Text
  | .table _ => "TableSourceConfig"
  | .path _ => "PathSourceConfig"
  | .kafka _ => "KafkaSourceConfig"

/-- `source_config.credential_ref`. -/
def SourceConfig.credentialRef : SourceConfig → Text
  | .table c => c.credentialRef
  | .path c => c.credentialRef
  | .kafka c => c.credentialRef

/-- `getattr(source_config, "checkpoint_column", None)`: a Kafka source has none. -/
def SourceConfig.checkpointColumn : SourceConfig → Option Text
  | .table c => c.checkpointColumn
  | .path c => c.checkpointColumn
  | .kafka _ => none

/-! ### Dictionaries -/

/-- The value of a `port` key: a number, or the text of one. -/
inductive RawPort
  /-- A number. -/
  | int (value : ℤ)
  /-- A text. -/
  | text (value : Text)

/-- `int(credentials["port"])`. -/
def RawPort.toInt : RawPort → Except PyExc ℤ
  | .int n => .ok n
  | .text s =>
    match parseInt s with
    | some n => .ok n
    | none => .error (.valueError
        (("invalid literal for int() with base 10: '" : Text) ++ s ++ ['\'']))

/-- The keys that `inject_connection` looks for in a dictionary. -/
structure ConnectionDict where
  /-- `host`. -/
  host : Option Text := none
  /-- `port`. -/
  port : Option RawPort := none
  /-- `jars`. -/
  jars : Option Yaml := none
  /-- `path`. -/
  path : Option Text := none
  /-- `bootstrap_servers`. -/
  bootstrapServers : Option Text := none

/-- A secret of OpenBao. -/
structure Secret extends ConnectionDict where
  /-- `endpoint`. -/
  endpoint : Option Text := none
  /-- The other keys, such as user names and passwords. -/
  other : Dict Text Yaml := []

/-- The keyword arguments that describe a source: the `source` section of a pipeline
file, or a source configuration taken apart by `dataclasses.asdict`. -/
structure SourceSection extends ConnectionDict where
  /-- `credential_ref`. -/
  credentialRef : Option Text := none
  /-- `database`. -/
  database : Option Text := none
  /-- `schema`. -/
  schema : Option Text := none
  /-- `table`. -/
  table : Option Text := none
  /-- `query`. -/
  query : Option Text := none
  /-- `checkpoint_column`. -/
  checkpointColumn : Option Text := none
  /-- `file_format`. -/
  fileFormat : Option Text := none
  /-- `topic`. -/
  topic : Option Text := none
  /-- `group_id`. -/
  groupId : Option Text := none
  /-- `starting_offsets`. -/
  startingOffsets : Option Text := none
  /-- `value_format`. -/
  valueFormat : Option Text := none
  /-- `extra`. -/
  extra : Option (Dict Text Yaml) := none
  /-- `read_options`. -/
  readOptions : Option (Dict Text Yaml) := none

/-- The `sink` section of a pipeline file. -/
structure SinkSection where
  /-- `credential_ref`. -/
  credentialRef : Option Text := none
  /-- `source_system_name`. -/
  sourceSystemName : Option Text := none
  /-- `extra`. -/
  extra : Option (Dict Text Yaml) := none
  /-- `file_format`. -/
  fileFormat : Option Text := none

/-- The `metric` section of a pipeline file. -/
structure MetricSection where
  /-- `credential_ref`. -/
  credentialRef : Option Text := none
  /-- The other keys. -/
  other : Dict Text Yaml := []

/-- A pipeline file. -/
structure PipelineConfig where
  /-- `read_type`. -/
  readType : Option Text := none
  /-- `write_type`. -/
  writeType : Option Text := none
  /-- `metric_type`. -/
  metricType : Option Text := none
  /-- `source`. -/
  source : Option SourceSection := none
  /-- `sink`. -/
  sink : Option SinkSection := none
  /-- `metric`. -/
  metric : Option MetricSection := none
  /-- `count_records`. -/
  countRecords : Option Bool := none

end BatchIngestion
