import BatchIngestion.Envelope
import BatchIngestion.SparkLog

/-!
# The settings of an S3 copy

Source and sink set the same keys of one Hadoop configuration, the sink last. An S3 copy opens
its source with the keys of the sink, and an endpoint that the source has set stays for a sink
without one.
-/

namespace BatchIngestion

open Python Library SparkAction Procedure

variable {ρ : Type} {world : SparkWorld ρ} {sink : SinkAdapter}

/-! ### Settings in effect -/

/-- The keys of an S3 connection. -/
def s3aKeys : List Text := ["fs.s3a.access.key", "fs.s3a.secret.key", "fs.s3a.endpoint.region",
  "fs.s3a.endpoint", "fs.s3a.path.style.access"]

/-- The settings of an S3 connection under a Hadoop configuration. -/
def settingsInEffect (conf : Dict Text Text) : List (Option Text) := s3aKeys.map (Dict.get? conf)

/-- The access key, the secret key and the region of credentials. -/
def ownKeys (credentials : Secret) : List (Option Text) := [
  some ((credentials.text? "aws_access_key_id").getD []),
  some ((credentials.text? "aws_secret_access_key").getD []),
  some ((credentials.text? "aws_region").getD "us-east-1")]

/-- The endpoint and the path style of credentials, over those of a configuration. -/
def ownEndpoint (conf : Dict Text Text) (credentials : Secret) : List (Option Text) :=
  match truthy (credentials.text? "aws_endpoint") with
  | some endpoint => [some endpoint, some "true".toList]
  | none => [Dict.get? conf "fs.s3a.endpoint".toList,
      Dict.get? conf "fs.s3a.path.style.access".toList]

/-- What the source adapter has set. -/
theorem settingsInEffect_source (conf : Dict Text Text) (credentials : Secret) :
    settingsInEffect (Dict.update conf (SourceS3Adapter.settings credentials)) =
      ownKeys credentials ++ ownEndpoint conf credentials := by
  simp only [settingsInEffect, s3aKeys, List.map_cons, List.map_nil, ownKeys, ownEndpoint,
    SourceS3Adapter.settings, s3Settings, s3EndpointSettings]
  cases truthy (credentials.text? "aws_endpoint".toList) <;> simp [Dict.update, Dict.get?_set]

/-- What the sink adapter has set. -/
theorem settingsInEffect_sink (conf : Dict Text Text) (credentials : Secret) :
    settingsInEffect (Dict.update conf (SinkS3Adapter.settings credentials)) =
      ownKeys credentials ++ ownEndpoint conf credentials := by
  simp only [settingsInEffect, s3aKeys, List.map_cons, List.map_nil, ownKeys, ownEndpoint,
    SinkS3Adapter.settings, s3Settings, s3EndpointSettings]
  cases truthy (credentials.text? "aws_endpoint".toList) <;> simp [Dict.update, Dict.get?_set]

/-! ### The configuration of a copy -/

/-- The Hadoop configuration of a copy entry. -/
def SparkEvent.copyConf? : SparkEvent ρ → Option (Dict Text Text)
  | .copying _ _ conf => some conf
  | _ => none

/-- An entry that is no copy under another configuration. -/
def CopiesUnder (conf : Dict Text Text) (w : SparkEvent ρ) : Prop :=
  ∀ conf', w.copyConf? = some conf' → conf' = conf

/-- The configuration after the sink has been validated. -/
def checkedConf (conf : Dict Text Text) (credentials : Secret) : Dict Text Text :=
  if (truthy (credentials.text? "aws_endpoint")).isSome then
    Dict.update conf (SinkS3Adapter.settings credentials)
  else
    conf

/-- The configuration of a copy. -/
def copyConf (conf : Dict Text Text) (source sink : Secret) : Dict Text Text :=
  Dict.update (checkedConf (Dict.update conf (SourceS3Adapter.settings source)) sink)
    (SinkS3Adapter.settings sink)

/-- An exception is no copy. -/
theorem copiesUnder_raised (conf : Dict Text Text) (e : PyExc) :
    CopiesUnder conf (.raised e : SparkEvent ρ) := fun _ h => by cases h

variable {conf final : Dict Text Text}

/-- The source sets its keys. -/
theorem triple_validateSource {ctx : RunContext} (h : ctx.readType = .s3) :
    Triple (fun s => s.hadoopConf = conf) (CopiesUnder final) (validateSource world ctx)
      fun _ s =>
        s.hadoopConf = Dict.update conf (SourceS3Adapter.settings ctx.sourceCredentials) := by
  refine Triple.bind ?_ fun _ => (Quiet.attempt (copiesUnder_raised final) _).triple _
  rw [configureSource, h]
  refine ((Quiet.attempt (copiesUnder_raised final) _).triple conf).bind fun _ => ?_
  exact Triple.modify fun s hs => by rw [← hs]; rfl

namespace SinkAdapter

/-- The sink sets its keys. -/
theorem triple_configure (h : sink.kind = .s3) (use : FileSystemUse) :
    Triple (fun s => s.hadoopConf = conf) (CopiesUnder final) (sink.configure world use)
      fun _ s => s.hadoopConf = Dict.update conf (SinkS3Adapter.settings sink.credentials) := by
  rw [configure, h]
  refine ((Quiet.attempt (copiesUnder_raised final) _).triple conf).bind fun _ => ?_
  exact Triple.modify fun s hs => by rw [← hs]; rfl

/-- The sink sets its keys to be validated if it has an endpoint. -/
theorem triple_validateConnection (h : sink.kind = .s3) :
    Triple (fun s => s.hadoopConf = conf) (CopiesUnder final) (sink.validateConnection world)
      fun _ s => s.hadoopConf = checkedConf conf sink.credentials := by
  refine Triple.bind ?_ fun _ => (Quiet.attempt (copiesUnder_raised final) _).triple _
  unfold configureForCheck checkedConf
  split
  · rename_i hcheck
    rw [if_pos (hcheck.resolve_left (by simp [h]))]
    exact triple_configure h _
  · rename_i hcheck
    rw [if_neg fun hsome => hcheck (.inr hsome)]
    exact Triple.ret fun _ hs => hs

/-- The copy is made under the configuration of the sink. -/
theorem triple_copyFrom (h : sink.kind = .s3)
    (hfinal : final = Dict.update conf (SinkS3Adapter.settings sink.credentials))
    (source dest : Text) :
    Triple (fun s => s.hadoopConf = conf) (CopiesUnder final) (sink.copyFrom world source dest)
      fun _ _ => True := by
  have hraised := copiesUnder_raised (ρ := ρ) final
  refine Triple.onException ?_ fun _ => (quiet_onError hraised fun _ h => by cases h).logs
  refine (triple_configure h _).bind fun _ => ((Quiet.attempt hraised _).triple _).bind fun _ => ?_
  refine Triple.read.bind fun s => ?_
  refine (Triple.emit ?_).bind fun _ => ?_
  · rintro s' ⟨hs, heq⟩ conf' hconf'
    obtain rfl := Option.some.inj hconf'
    rw [heq, hs, hfinal]
  · refine ((Logs.attempt hraised _).bind fun _ => (Logs.attempt hraised _).bind fun _ => ?_).triple
    exact (quiet_postWrite hraised).logs

end SinkAdapter

/-- **An S3 copy is made under the settings of the source and over them those of the sink.** -/
theorem SparkRunOperator.copiesUnder_copyConf (op : SparkRunOperator) (dagId runId : Text)
    {raw : ContextDict} {ctx : RunContext} (hxcom : world.xcom = .ok (some raw))
    (hdecoded : RunContext.fromDict raw = .ok ctx) (hread : ctx.readType = .s3)
    (hwrite : ctx.writeType = .s3) (conf : Dict Text Text) :
    Triple (fun s => s.hadoopConf = conf)
      (CopiesUnder (copyConf conf ctx.sourceCredentials ctx.sinkCredentials))
      (op.execute world dagId runId) fun _ _ => True := by
  set final := copyConf conf ctx.sourceCredentials ctx.sinkCredentials with hfinal
  have hraised := copiesUnder_raised (ρ := ρ) final
  have hquiet {w : SparkEvent ρ} (h : w.copyConf? = none) : CopiesUnder final w := by
    intro conf' hconf'
    rw [h] at hconf'
    cases hconf'
  refine Triple.onException ?_ fun e =>
    (quiet_pushFailureMetric (fun _ => hquiet rfl) (fun _ => hquiet rfl) _ _ e).logs
  refine ((quiet_setUp hraised).of_id.triple conf).bind_of_returns (returns_setUp op)
    fun task htask => ?_
  obtain ⟨raw', ctx', hraw, hdecoded', rfl⟩ := htask
  obtain rfl : raw' = raw := Option.some.inj (Except.ok.inj (hraw.symm.trans hxcom))
  obtain rfl : ctx' = ctx := Except.ok.inj (hdecoded'.symm.trans hdecoded)
  obtain ⟨hread', hwrite', hsource', hsink'⟩ := ctx'.constructSource_keeps
  refine (triple_validateSource (hread'.trans hread)).bind fun _ => ?_
  rw [hsource']
  have hkind : ctx'.constructSource.constructSink.kind = .s3 := hwrite'.trans hwrite
  refine (SinkAdapter.triple_validateConnection hkind).bind fun _ => ?_
  split
  · refine ((Quiet.attempt hraised _).triple _).bind fun dest => ?_
    refine SinkAdapter.triple_copyFrom hkind ?_ _ _
    rw [hfinal, copyConf, ← hsink']
    rfl
  · exact (logs_readAndWrite hraised (fun _ => hquiet rfl) (fun _ _ _ _ => hquiet rfl)
      (fun _ _ _ => hquiet rfl) _).triple

/-! ### Two runs with one sink -/

/-- The endpoint and the path style of a copy. -/
def copyEndpoint (conf : Dict Text Text) (source sink : Secret) : List (Option Text) :=
  match truthy (sink.text? "aws_endpoint") with
  | some endpoint => [some endpoint, some "true".toList]
  | none => ownEndpoint conf source

/-- The settings of a copy are those of the sink, but for an endpoint that it does not have. -/
theorem settingsInEffect_copyConf (conf : Dict Text Text) (source sink : Secret) :
    settingsInEffect (copyConf conf source sink) =
      ownKeys sink ++ copyEndpoint conf source sink := by
  rw [copyConf, settingsInEffect_sink, List.append_right_inj]
  unfold copyEndpoint
  cases hsink : truthy (sink.text? "aws_endpoint") with
  | some endpoint => rw [ownEndpoint, hsink]
  | none =>
    have hsource := congrArg (List.drop 3) (settingsInEffect_source conf source)
    rw [ownEndpoint, checkedConf, hsink]
    exact hsource

/-- A run from S3 to S3, in a session with a given configuration and with given credentials of
the sink. -/
structure S3Run (ρ : Type) (conf : Dict Text Text) (sink : Secret) where
  /-- The task. -/
  op : SparkRunOperator
  /-- The environment. -/
  world : SparkWorld ρ
  /-- The DAG. -/
  dagId : Text
  /-- The Airflow run. -/
  runId : Text
  /-- The session. -/
  session : SparkState ρ
  /-- The XCom value. -/
  raw : ContextDict
  /-- The context. -/
  ctx : RunContext
  /-- The value is pulled. -/
  pulled : world.xcom = .ok (some raw)
  /-- The context is decoded. -/
  decoded : RunContext.fromDict raw = .ok ctx
  /-- The source is on S3. -/
  readType : ctx.readType = .s3
  /-- The sink is on S3. -/
  writeType : ctx.writeType = .s3
  /-- The configuration of the session. -/
  hadoopConf : session.hadoopConf = conf
  /-- The credentials of the sink. -/
  sinkCredentials : ctx.sinkCredentials = sink

/-- The configurations of the copies of a run. -/
def S3Run.copies {conf : Dict Text Text} {sink : Secret} (r : S3Run ρ conf sink) :
    List (Dict Text Text) :=
  (r.op.execute r.world r.dagId r.runId r.session).log.filterMap SparkEvent.copyConf?

/-- The settings of two copies do not leak: the destination is written with the same settings in
both, and each source is opened with its own. -/
structure SettingsApart (conf : Dict Text Text) (source source' : Secret)
    (copy copy' : Dict Text Text) : Prop where
  /-- The destination. -/
  dest : settingsInEffect copy = settingsInEffect copy'
  /-- The first source. -/
  source : settingsInEffect copy =
    settingsInEffect (Dict.update conf (SourceS3Adapter.settings source))
  /-- The second source. -/
  source' : settingsInEffect copy' =
    settingsInEffect (Dict.update conf (SourceS3Adapter.settings source'))

variable {sinkCredentials : Secret}

/-- The settings of a copy of a run. -/
theorem S3Run.settingsInEffect_of_mem_copies (r : S3Run ρ conf sinkCredentials)
    {copy : Dict Text Text} (h : copy ∈ r.copies) : settingsInEffect copy =
      ownKeys sinkCredentials ++ copyEndpoint conf r.ctx.sourceCredentials sinkCredentials := by
  obtain ⟨w, hw, hcopy⟩ := List.mem_filterMap.mp h
  have hcopies := (r.op.copiesUnder_copyConf r.dagId r.runId r.pulled r.decoded r.readType
    r.writeType conf r.session r.hadoopConf).1 w hw copy hcopy
  rw [hcopies, settingsInEffect_copyConf, r.sinkCredentials]

/-- **When the settings of S3 copies do not leak**: exactly when both sources have the keys and
the region of the sink and, with an endpoint of the sink, this endpoint, or else the same one. -/
theorem settingsApart_iff (r r' : S3Run ρ conf sinkCredentials) {copy copy' : Dict Text Text}
    (h : copy ∈ r.copies) (h' : copy' ∈ r'.copies) :
    SettingsApart conf r.ctx.sourceCredentials r'.ctx.sourceCredentials copy copy' ↔
      ownKeys r.ctx.sourceCredentials = ownKeys sinkCredentials ∧
      ownKeys r'.ctx.sourceCredentials = ownKeys sinkCredentials ∧
      match truthy (sinkCredentials.text? "aws_endpoint") with
      | some endpoint =>
        ownEndpoint conf r.ctx.sourceCredentials = [some endpoint, some "true".toList] ∧
        ownEndpoint conf r'.ctx.sourceCredentials = [some endpoint, some "true".toList]
      | none => ownEndpoint conf r.ctx.sourceCredentials =
          ownEndpoint conf r'.ctx.sourceCredentials := by
  have hcopy := r.settingsInEffect_of_mem_copies h
  have hcopy' := r'.settingsInEffect_of_mem_copies h'
  constructor
  · rintro ⟨hdest, hsource, hsource'⟩
    rw [hcopy, hcopy', List.append_right_inj] at hdest
    rw [hcopy, settingsInEffect_source] at hsource
    rw [hcopy', settingsInEffect_source] at hsource'
    obtain ⟨hkeys, hendpoint⟩ := List.append_inj hsource rfl
    obtain ⟨hkeys', hendpoint'⟩ := List.append_inj hsource' rfl
    refine ⟨hkeys.symm, hkeys'.symm, ?_⟩
    unfold copyEndpoint at hdest hendpoint hendpoint'
    cases hsink : truthy (sinkCredentials.text? "aws_endpoint") with
    | some endpoint =>
      simp only [hsink] at hendpoint hendpoint'
      exact ⟨hendpoint.symm, hendpoint'.symm⟩
    | none =>
      simp only [hsink] at hdest
      exact hdest
  · rintro ⟨hkeys, hkeys', hendpoint⟩
    have hown : copyEndpoint conf r.ctx.sourceCredentials sinkCredentials =
          ownEndpoint conf r.ctx.sourceCredentials ∧
        copyEndpoint conf r'.ctx.sourceCredentials sinkCredentials =
          ownEndpoint conf r'.ctx.sourceCredentials ∧
        ownEndpoint conf r.ctx.sourceCredentials = ownEndpoint conf r'.ctx.sourceCredentials := by
      unfold copyEndpoint
      cases hsink : truthy (sinkCredentials.text? "aws_endpoint") with
      | some endpoint =>
        simp only [hsink] at hendpoint
        exact ⟨hendpoint.1.symm, hendpoint.2.symm, hendpoint.1.trans hendpoint.2.symm⟩
      | none =>
        simp only [hsink] at hendpoint
        exact ⟨rfl, rfl, hendpoint⟩
    obtain ⟨hown, hown', hsame⟩ := hown
    rw [hown, ← hkeys] at hcopy
    rw [hown', ← hkeys'] at hcopy'
    refine ⟨?_, ?_, ?_⟩
    · rw [hcopy, hcopy', hsame, hkeys, hkeys']
    · rw [hcopy, settingsInEffect_source]
    · rw [hcopy', settingsInEffect_source]

/-! ### Example runs -/

/-- A path in a bucket. -/
def rawBucket : SourceConfig := .path {
  credentialRef := "s3-source"
  extra := []
  readOptions := []
  path := "s3a://raw/events/"
  fileFormat := "parquet"
  checkpointColumn := none }

/-- A run that copies the path into another bucket. -/
def bucketContext (source sink : Secret) : RunContext where
  dagId := "events"
  runId := "manual"
  ingestionDate := newYear.naive.date
  ingestionTime := newYear
  readType := .s3
  writeType := .s3
  metricType := .cloudQueue
  sourceConfig := rawBucket
  sinkConfig := {
    endpoint := "s3a://lake"
    credentialRef := "s3-sink"
    sourceSystemName := "partner"
    ingestionDate := newYear.naive.date
    ingestionTime := newYear
    runId := "manual"
    sourceConfig := rawBucket
    extra := []
    fileFormat := "parquet" }
  sourceCredentials := source
  sinkCredentials := sink
  metricCredentials := {}
  metricConfigRaw := {}
  checkpointFrom := none
  checkpointTo := none
  countRecords := false

/-- The parts of the context agree. -/
theorem coherent_bucketContext (source sink : Secret) : (bucketContext source sink).Coherent where
  source_built := .inr rfl
  sink_valid := rfl
  sink_source := rfl
  sink_date := rfl
  sink_time := rfl
  sink_run := rfl

/-- The run in a fresh session, with an environment that never fails. -/
def bucketRun (source sink : Secret) : S3Run Unit [] sink where
  op := {
    initTaskId := "init"
    xcomKey := "run_context"
    metricType := none
    metricConfigRaw := none }
  world := {
    xcom := .ok (some (bucketContext source sink).toDict)
    call := fun _ => .ok ()
    frame := { fields := [], rows := [] }
    reshape := fun _ row => row
    copied := true
    metric := {
      getSecret := fun _ => .ok {}
      validate := .ok true
      backend := { now := [], create := .ok (), send := .ok (), flush := .delivered } } }
  dagId := "events"
  runId := "manual"
  session := { hadoopConf := [], hadoopUser := none, stored := fun _ => [] }
  raw := (bucketContext source sink).toDict
  ctx := bucketContext source sink
  pulled := rfl
  decoded := RunContext.fromDict_toDict (coherent_bucketContext source sink)
  readType := rfl
  writeType := rfl
  hadoopConf := rfl
  sinkCredentials := rfl

/-- Credentials on AWS. -/
def awsCredentials (accessKey : Text) : Secret where
  other := [
    ("aws_access_key_id".toList, .str accessKey),
    ("aws_secret_access_key".toList, .str "secret".toList),
    ("aws_region".toList, .str "eu-west-1".toList)]

/-- Credentials of a MinIO server. -/
def minioCredentials : Secret where
  other := [
    ("aws_access_key_id".toList, .str "minio".toList),
    ("aws_secret_access_key".toList, .str "secret".toList),
    ("aws_endpoint".toList, .str "http://minio:9000".toList)]

/-- The settings do not leak between sources and a sink with one set of keys. -/
theorem settingsApart_lake :
    ∃ copy ∈ (bucketRun (awsCredentials "lake") (awsCredentials "lake")).copies,
      SettingsApart [] (awsCredentials "lake") (awsCredentials "lake") copy copy := by
  obtain ⟨copy, hcopy⟩ := List.exists_mem_of_ne_nil
    (bucketRun (awsCredentials "lake") (awsCredentials "lake")).copies (by decide +kernel)
  exact ⟨copy, hcopy, (settingsApart_iff _ _ hcopy hcopy).mpr ⟨rfl, rfl, rfl⟩⟩

/-- Next to a source on AWS, a source on MinIO has its endpoint left in place for the copy into
the bucket of the sink, and both sources are opened with the keys of the sink. -/
theorem not_settingsApart_minio :
    ∃ copy ∈ (bucketRun minioCredentials (awsCredentials "lake")).copies,
    ∃ copy' ∈ (bucketRun (awsCredentials "raw") (awsCredentials "lake")).copies,
      settingsInEffect copy ≠ settingsInEffect copy' ∧
      ¬ SettingsApart [] minioCredentials (awsCredentials "raw") copy copy' := by
  obtain ⟨copy, hcopy⟩ := List.exists_mem_of_ne_nil
    (bucketRun minioCredentials (awsCredentials "lake")).copies (by decide +kernel)
  obtain ⟨copy', hcopy'⟩ := List.exists_mem_of_ne_nil
    (bucketRun (awsCredentials "raw") (awsCredentials "lake")).copies (by decide +kernel)
  have hdest : settingsInEffect copy ≠ settingsInEffect copy' := by
    rw [S3Run.settingsInEffect_of_mem_copies _ hcopy, S3Run.settingsInEffect_of_mem_copies _ hcopy']
    decide +kernel
  exact ⟨copy, hcopy, copy', hcopy', hdest, fun h => hdest h.dest⟩

end BatchIngestion
