import BatchIngestion.InlineMetric
import BatchIngestion.RunContext
import BatchIngestion.WritePath
import Mathlib.Logic.Function.Basic

/-!
# A Spark session and its adapters

What the source and the sink adapters do to the Spark session that they share: they set keys
of one Hadoop configuration, and save rows under a path. Every call that leaves the process can
raise. What happens is logged, oldest entry first.
-/

namespace BatchIngestion

open Python Library

variable {ρ : Type}

/-! ### The session -/

/-- `WriteMode`. -/
inductive WriteMode
  /-- Add to what is there. -/
  | append
  /-- Replace what is there. -/
  | overwrite
  /-- `upsert`, which Spark does not know. -/
  | upsert
  /-- `merge`, which Spark does not know. -/
  | merge
  deriving DecidableEq

/-- A schema: the names of the columns and their types. -/
abbrev SparkSchema := List (Text × Text)

/-- A Spark DataFrame. -/
structure DataFrame (ρ : Type) where
  /-- `schema.fields`. -/
  fields : SparkSchema
  /-- The rows. -/
  rows : List ρ

/-- The configurations of the file systems, for a check, a write or a copy. -/
inductive FileSystemUse
  /-- In `validate_connection`. -/
  | validate
  /-- In `write`. -/
  | write
  /-- In `copy_from`. -/
  | copy
  deriving DecidableEq

/-- The calls that leave the process. -/
inductive SparkCall
  /-- `builder.getOrCreate()`. -/
  | buildSession
  /-- The constructor of the source adapter. -/
  | createSource
  /-- The constructor of the sink adapter. -/
  | createSink
  /-- Set the file system configuration of the source. -/
  | configureSource
  /-- Reach the source. -/
  | connectSource
  /-- Set the file system configuration of the sink. -/
  | configureSink (use : FileSystemUse)
  /-- Reach the sink. -/
  | connectSink
  /-- `apply_filters`. -/
  | applyFilters
  /-- `read`. -/
  | read
  /-- `df.cache()`. -/
  | cache
  /-- `df.count()`. -/
  | count
  /-- `xcom_push` of the record count. -/
  | pushCount
  /-- `df.schema` and the casts of `pre_write`. -/
  | shapeFrame
  /-- `df.write` with its format, mode and partition columns. -/
  | prepareWriter
  /-- `writer.save`. -/
  | save
  /-- `df.unpersist()`. -/
  | unpersist
  /-- Open the two file systems of a copy. -/
  | openFileSystems
  /-- `FileUtil.copy`. -/
  | copy
  deriving DecidableEq

/-- What can be seen of a run of the Spark task. -/
inductive SparkEvent (ρ : Type)
  /-- An exception was raised. -/
  | raised (error : PyExc)
  /-- A save of a frame starts, with its format and its partition columns. -/
  | saving (fields : SparkSchema) (format : Text) (partitionBy : List Text) (path : Text)
  /-- A save is complete. -/
  | saved (mode : WriteMode) (path : Text) (rows : List ρ)
  /-- The error hook of the sink is called. -/
  | onError (exception : PyExc)
  /-- A copy starts, under a Hadoop configuration. -/
  | copying (source dest : Text) (conf : Dict Text Text)
  /-- `push_metric_inline` was called. -/
  | pushing (payload : Dict Text Value)
  /-- Something happened in the metric adapter. -/
  | metric (event : MetricEvent)

/-- The state that the adapters of a process share, and the rows under each path. -/
structure SparkState (ρ : Type) where
  /-- `sparkContext._jsc.hadoopConfiguration()`. -/
  hadoopConf : Dict Text Text
  /-- `os.environ["HADOOP_USER_NAME"]`. -/
  hadoopUser : Option Text
  /-- What is stored in the sink. -/
  stored : Text → List ρ

/-- What the environment contributes to an execution of the Spark task. -/
structure SparkWorld (ρ : Type) where
  /-- `xcom_pull`. -/
  xcom : Except PyExc (Option ContextDict)
  /-- The other calls. -/
  call : SparkCall → Except PyExc Unit
  /-- The DataFrame of `read`. -/
  frame : DataFrame ρ
  /-- What `select` and `cast` do to a row, given the fields that they lead to. -/
  reshape : SparkSchema → ρ → ρ
  /-- What `FileUtil.copy` returns. -/
  copied : Bool
  /-- The metric backend. -/
  metric : MetricWorld

/-- A procedure of the Spark task. -/
abbrev SparkAction (ρ α : Type) := Procedure PyExc (SparkState ρ) (SparkEvent ρ) α

/-- A computation that may raise. -/
def SparkAction.step {α : Type} (x : Except PyExc α) : SparkAction ρ α :=
  Procedure.attempt .raised x

open SparkAction Procedure

/-! ### File systems -/

/-- The string under a key of a secret. -/
def Secret.text? (secret : Secret) (key : Text) : Option Text :=
  match Dict.get? secret.other key with
  | some (.str value) => some value
  | _ => none

/-- A string that counts as true. -/
def truthy (value : Option Text) : Option Text := value.filter (· ≠ [])

/-- The keys that both S3 adapters set. -/
def s3Settings (credentials : Secret) : Dict Text Text := [
  ("fs.s3a.access.key", (credentials.text? "aws_access_key_id").getD []),
  ("fs.s3a.secret.key", (credentials.text? "aws_secret_access_key").getD []),
  ("fs.s3a.endpoint.region", (credentials.text? "aws_region").getD "us-east-1"),
  ("fs.s3a.impl", "org.apache.hadoop.fs.s3a.S3AFileSystem"),
  ("fs.s3a.aws.credentials.provider", "org.apache.hadoop.fs.s3a.SimpleAWSCredentialsProvider")]

/-- The keys for a store other than AWS. -/
def s3EndpointSettings (credentials : Secret) : Dict Text Text :=
  match truthy (credentials.text? "aws_endpoint") with
  | some endpoint => [("fs.s3a.endpoint", endpoint), ("fs.s3a.path.style.access", "true")]
  | none => []

/-- What `SourceS3Adapter._configure_spark_for_filesystem` sets. -/
def SourceS3Adapter.settings (credentials : Secret) : Dict Text Text :=
  s3Settings credentials ++ s3EndpointSettings credentials

/-- What `SinkS3Adapter._configure_spark_for_filesystem` sets. -/
def SinkS3Adapter.settings (credentials : Secret) : Dict Text Text :=
  s3Settings credentials ++
    [("fs.s3a.fast.upload".toList, "true".toList),
      ("fs.s3a.fast.upload.buffer".toList, "bytebuffer".toList)] ++
    s3EndpointSettings credentials

/-- Set keys of the shared Hadoop configuration. -/
def SparkState.configure (settings : Dict Text Text) (s : SparkState ρ) : SparkState ρ :=
  { s with hadoopConf := Dict.update s.hadoopConf settings }

/-- `_configure_spark_for_filesystem` of the two HDFS adapters, but for the Kerberos login. -/
def SparkState.configureHadoop (credentials : Secret) (s : SparkState ρ) : SparkState ρ :=
  let s := match truthy (credentials.text? "hdfs_user") with
    | some user => { s with hadoopUser := some user }
    | none => s
  match truthy (credentials.text? "kerberos_principal"),
    truthy (credentials.text? "kerberos_keytab") with
  | some principal, some _ => s.configure [
      ("hadoop.security.authentication", "kerberos"),
      ("dfs.namenode.kerberos.principal", principal)]
  | _, _ => s

/-- `s3://` becomes `s3a://`. -/
def normaliseS3 (uri : Text) : Text :=
  if ("s3://" : Text).isPrefixOf uri then ("s3a://" : Text) ++ uri.drop 5 else uri

/-! ### The source adapter -/

/-- The run context after the constructor of the source adapter. The constructor for S3 rewrites
the path of the source configuration, which is also the one of the sink. -/
def RunContext.constructSource (ctx : RunContext) : RunContext :=
  match ctx.readType, ctx.sourceConfig with
  | .s3, .path config =>
    let source : SourceConfig := .path { config with path := normaliseS3 config.path }
    { ctx with
      sourceConfig := source
      sinkConfig := { ctx.sinkConfig with sourceConfig := source } }
  | _, _ => ctx

/-- `ReadAdapterFactory.create`. -/
def ReadAdapterFactory.create (world : SparkWorld ρ) (ctx : RunContext) :
    SparkAction ρ RunContext := do
  step (world.call .createSource)
  return ctx.constructSource

/-- `_configure_spark_for_filesystem` of the source adapters that have it. -/
def configureSource (world : SparkWorld ρ) (ctx : RunContext) : SparkAction ρ Unit :=
  match ctx.readType with
  | .file => do
    step (world.call .configureSource)
    modify (SparkState.configureHadoop ctx.sourceCredentials)
  | .s3 => do
    step (world.call .configureSource)
    modify (SparkState.configure (SourceS3Adapter.settings ctx.sourceCredentials))
  | _ => pure ()

/-- `source_adapter.validate_connection`. -/
def validateSource (world : SparkWorld ρ) (ctx : RunContext) : SparkAction ρ Unit := do
  configureSource world ctx
  step (world.call .connectSource)

/-! ### The sink adapter -/

/-- A `HadoopAdapter`. -/
structure SinkAdapter where
  /-- The class: `SinkHadoopAdapter` or `SinkS3Adapter`. -/
  kind : WriteAdapterType
  /-- `sink_config`. -/
  config : SinkConfig
  /-- `credentials`. -/
  credentials : Secret
  /-- `write_mode`. -/
  writeMode : WriteMode := .append
  /-- `partition_by`. -/
  partitionBy : List Text := []
  /-- `schema`. -/
  schema : Option SparkSchema := none
  /-- `file_format`. -/
  fileFormat : Text

/-- The sink adapter of a run context. The constructor for S3 rewrites the endpoint. -/
def RunContext.constructSink (ctx : RunContext) : SinkAdapter where
  kind := ctx.writeType
  config := match ctx.writeType with
    | .hadoop => ctx.sinkConfig
    | .s3 => { ctx.sinkConfig with endpoint := normaliseS3 ctx.sinkConfig.endpoint }
  credentials := ctx.sinkCredentials
  fileFormat := ctx.sinkConfig.fileFormat

/-- `WriteAdapterFactory.create`. -/
def WriteAdapterFactory.create (world : SparkWorld ρ) (ctx : RunContext) :
    SparkAction ρ SinkAdapter := do
  step (world.call .createSink)
  return ctx.constructSink

namespace SinkAdapter

/-- `_configure_spark_for_filesystem`. -/
def configure (sink : SinkAdapter) (world : SparkWorld ρ) (use : FileSystemUse) :
    SparkAction ρ Unit := do
  step (world.call (.configureSink use))
  match sink.kind with
  | .hadoop => modify (SparkState.configureHadoop sink.credentials)
  | .s3 => modify (SparkState.configure (SinkS3Adapter.settings sink.credentials))

/-- The configuration for a check. On AWS the bucket is looked up through boto3. -/
def configureForCheck (sink : SinkAdapter) (world : SparkWorld ρ) : SparkAction ρ Unit :=
  if sink.kind = .hadoop ∨ (truthy (sink.credentials.text? "aws_endpoint")).isSome then
    sink.configure world .validate
  else
    pure ()

/-- `validate_connection`. -/
def validateConnection (sink : SinkAdapter) (world : SparkWorld ρ) : SparkAction ρ Unit := do
  sink.configureForCheck world
  step (world.call .connectSink)

/-- `post_write` prints the path. -/
def postWrite (sink : SinkAdapter) : SparkAction ρ Unit := do
  let _ ← step (buildWritePath sink.config)

/-- `on_error` prints the path and the exception. -/
def onError (sink : SinkAdapter) (exception : PyExc) : SparkAction ρ Unit := do
  emit (.onError exception)
  let _ ← step (buildWritePath sink.config)

/-- A mismatch of `validate_schema`. -/
def mismatchText (field : Text × Text) (found : Option Text) : Text :=
  ("Column '" : Text) ++ field.1 ++ ("': expected " : Text) ++ field.2 ++ (", got " : Text) ++
    found.getD "None"

/-- `validate_schema`. -/
def validateSchema (sink : SinkAdapter) (df : DataFrame ρ) : Except PyExc Unit :=
  match sink.schema with
  | none => .ok ()
  | some schema =>
    let found : Dict Text Text := Dict.update [] df.fields
    let expected : Dict Text Text := Dict.update [] schema
    let mismatches := expected.filterMap fun field =>
      let type := Dict.get? found field.1
      if type = some field.2 then none else some (mismatchText field type)
    if mismatches = [] then .ok ()
    else .error (.valueError (("Schema validation failed:\n" : Text) ++
      ['\n'].intercalate mismatches))

/-- `pre_write`: the expected columns that exist, cast to their expected types. -/
def preWrite (sink : SinkAdapter) (world : SparkWorld ρ) (df : DataFrame ρ) : DataFrame ρ :=
  match sink.schema with
  | none => df
  | some schema =>
    let selected := schema.filterMap fun field => df.fields.find? (·.1 = field.1)
    let fields := schema.foldl (fun fields field =>
      fields.map fun column => if column.1 = field.1 then field else column) selected
    { fields, rows := df.rows.map (world.reshape fields) }

/-- `writer.save`, which replaces or extends what is under the path. -/
def saveInto (stored : Text → List ρ) (mode : WriteMode) (path : Text) (rows : List ρ) :
    Text → List ρ :=
  Function.update stored path (if mode = .append then stored path ++ rows else rows)

/-- `mode(...)` of a writer. -/
def checkMode : WriteMode → Except PyExc Unit
  | .append | .overwrite => .ok ()
  | .upsert | .merge => .error (.external "Unknown save mode")

/-- The look at `df.schema`, when a schema is expected. -/
def shapeFrame (sink : SinkAdapter) (world : SparkWorld ρ) : SparkAction ρ Unit :=
  if sink.schema.isSome then step (world.call .shapeFrame) else pure ()

/-- `HadoopAdapter.write`. -/
def write (sink : SinkAdapter) (world : SparkWorld ρ) (df : DataFrame ρ) : SparkAction ρ Unit :=
  onException (do
      sink.configure world .write
      sink.shapeFrame world
      step (sink.validateSchema df)
      let df := sink.preWrite world df
      let path ← step (buildWritePath sink.config)
      step (world.call .prepareWriter)
      step (checkMode sink.writeMode)
      emit (.saving df.fields sink.fileFormat sink.partitionBy path)
      step (world.call .save)
      modify fun s => { s with stored := saveInto s.stored sink.writeMode path df.rows }
      emit (.saved sink.writeMode path df.rows)
      sink.postWrite)
    sink.onError

/-- `HadoopAdapter.copy_from`. -/
def copyFrom (sink : SinkAdapter) (world : SparkWorld ρ) (source dest : Text) :
    SparkAction ρ Unit :=
  onException (do
      sink.configure world .copy
      step (world.call .openFileSystems)
      let s ← read
      emit (.copying source dest s.hadoopConf)
      step (world.call .copy)
      step (if world.copied then .ok () else .error (.runtimeError
        (("Hadoop FileUtil.copy returned false: " : Text) ++ source ++ (" → " : Text) ++ dest)))
      sink.postWrite)
    sink.onError

end SinkAdapter

end BatchIngestion
