import BatchIngestion.InitOperator
import BatchIngestion.WritePath

/-!
# From the init task to the Spark task

What the Spark task decodes is compared with what the init task encoded, and the
four places that dispatch on the kind of source are compared with each other.
The decoder forgets the `extra` dictionary of the sink, and only the source
factory knows Kafka sources.
-/

namespace BatchIngestion

open Python Library

/-! ### The envelope -/

/-- **When the envelope is lossless**: the decoder gives back the context that the init
task pushed exactly when the pipeline file has no `extra` for the sink, or an empty one. -/
theorem envelope_lossless_iff {env : InitOperator.Env} {cfg : PipelineConfig} {ctx : RunContext}
    (h : InitOperator.execute env cfg = .ok ctx) :
    RunContext.fromDict ctx.toDict = .ok ctx ↔ cfg.sinkExtra = [] := by
  rw [RunContext.fromDict_toDict (InitOperator.coherent_of_execute h),
    ← (InitOperator.builds_of_execute h).sink_extra]
  constructor
  · intro heq
    have hsink := congrArg (fun c => c.sinkConfig.extra) (Except.ok.inj heq)
    exact hsink.symm
  · intro hextra
    have hdrop : ctx.sinkConfig.dropExtra = ctx.sinkConfig := by
      rw [SinkConfig.dropExtra, ← hextra]
    rw [hdrop]

/-- The first of January 2024 in UTC. -/
def newYear : DateTime :=
  ⟨(⟨2024, 1, 1, by decide, by decide, by decide⟩ : Date).midnight, some ⟨0, by decide, by decide⟩⟩

/-- A run of a DAG `orders` with empty secrets and no stored checkpoint. -/
def ordersEnv : InitOperator.Env where
  dagId := "orders"
  runId := "scheduled__2024-01-01"
  dataIntervalStart := newYear
  getSecret _ := .ok {}
  checkpointRow := .ok none
  native := Native.down

/-- A pipeline file with a given source and `extra` for the sink. -/
def ordersConfig (readType : Text) (source : SourceSection) (extra : Dict Text Yaml) :
    PipelineConfig where
  readType := readType
  writeType := some "hadoop".toList
  source := source
  sink := some {
    credentialRef := some "hadoop".toList
    sourceSystemName := some "shop".toList
    extra := extra }

/-- A `source` section of a table. -/
def ordersTable : SourceSection where
  credentialRef := some "postgres".toList
  database := some "shop".toList
  table := some "orders".toList

/-- Without `extra` for the sink the envelope of a run is lossless. -/
theorem envelope_lossless_of_no_extra :
    ∃ ctx, InitOperator.execute ordersEnv (ordersConfig "sql" ordersTable []) = .ok ctx ∧
      RunContext.fromDict ctx.toDict = .ok ctx :=
  ⟨_, rfl, (@envelope_lossless_iff ordersEnv (ordersConfig "sql" ordersTable []) _ rfl).mpr rfl⟩

/-- A sink with one additional parameter: the context that the Spark task decodes is not
the one that the init task pushed. -/
theorem envelope_loses_sink_extra :
    ∃ ctx, InitOperator.execute ordersEnv
        (ordersConfig "sql" ordersTable [("compression".toList, .str "zstd".toList)]) = .ok ctx ∧
      RunContext.fromDict ctx.toDict ≠ .ok ctx := by
  have hexecute : ∃ ctx, InitOperator.execute ordersEnv (ordersConfig "sql" ordersTable
      [("compression".toList, .str "zstd".toList)]) = .ok ctx := ⟨_, rfl⟩
  obtain ⟨ctx, hctx⟩ := hexecute
  refine ⟨ctx, hctx, fun h => ?_⟩
  rw [RunContext.fromDict_toDict (InitOperator.coherent_of_execute hctx)] at h
  have hextra := congrArg (fun c => c.sinkConfig.extra) (Except.ok.inj h)
  have hconfig := (InitOperator.builds_of_execute hctx).sink_extra
  exact absurd (hextra.trans hconfig) (by simp [SinkConfig.dropExtra, PipelineConfig.sinkExtra,
    ordersConfig])

/-! ### Which sources are landed -/

/-- The tasks accept a source section: the factories build its configurations, the Spark
task decodes the context of every run of such a pipeline, and the decoded sink has a path. -/
def Lands (env : InitOperator.Env) (readType : ReadAdapterType) (source : SourceSection)
    (sink : SinkSection) : Prop :=
  (∃ configs, InitOperator.buildConfigs env readType source sink = .ok configs) ∧
    ∀ cfg ctx, cfg.readType = some readType.value → cfg.source = some source →
      cfg.sink = some sink → InitOperator.execute env cfg = .ok ctx →
      ∃ decoded path, RunContext.fromDict ctx.toDict = .ok decoded ∧
        buildWritePath decoded.sinkConfig = .ok path

/-- The configurations are built exactly for a named run and a source that is no topic. -/
theorem InitOperator.exists_buildConfigs_iff {env : Env} {readType : ReadAdapterType}
    {source : SourceSection} {sink : SinkSection} {config : SourceConfig}
    {credentialRef sourceSystemName : Text}
    (hsource : SourceConfigFactory.create readType source = .ok config)
    (hcredential : sink.credentialRef = some credentialRef) (hcredential' : credentialRef ≠ [])
    (hsystem : sink.sourceSystemName = some sourceSystemName) (hsystem' : sourceSystemName ≠ []) :
    (∃ configs, buildConfigs env readType source sink = .ok configs) ↔
      readType ≠ .kafka ∧ env.runId ≠ [] := by
  have hvalid :
      SinkConfigFactory.validate credentialRef sourceSystemName env.runId config = .ok () ↔
      readType ≠ .kafka ∧ env.runId ≠ [] := by
    rw [SinkConfigFactory.validate_eq_ok_iff,
      SourceConfigFactory.isTableOrPath_of_create hsource]
    tauto
  simp only [← hvalid, buildConfigs, hsource, hcredential, hsystem, requireKey, ok_bind,
    SinkConfigFactory.create, bind_eq_ok_iff]
  constructor
  · rintro ⟨configs, sinkConfig, ⟨u, hu, -⟩, -⟩
    exact hu
  · intro hu
    exact ⟨_, _, ⟨(), hu, rfl⟩, rfl⟩

/-- The decoded context of a run has a path. -/
theorem exists_path_of_execute {env : InitOperator.Env} {cfg : PipelineConfig} {ctx : RunContext}
    (h : InitOperator.execute env cfg = .ok ctx) :
    ∃ decoded path, RunContext.fromDict ctx.toDict = .ok decoded ∧
      buildWritePath decoded.sinkConfig = .ok path := by
  have hcoherent := InitOperator.coherent_of_execute h
  have hbuild : ∃ path, buildWritePath ctx.sinkConfig.dropExtra = .ok path :=
    exists_buildWritePath_iff.mpr hcoherent.isTableOrPath
  obtain ⟨path, hpath⟩ := hbuild
  exact ⟨_, path, RunContext.fromDict_toDict hcoherent, hpath⟩

/-- **Which accepted sources are landed**: all but the Kafka sources, in runs that have an
identifier. -/
theorem lands_iff {env : InitOperator.Env} {readType : ReadAdapterType} {source : SourceSection}
    {sink : SinkSection} {config : SourceConfig} {credentialRef sourceSystemName : Text}
    (hsource : SourceConfigFactory.create readType source = .ok config)
    (hcredential : sink.credentialRef = some credentialRef) (hcredential' : credentialRef ≠ [])
    (hsystem : sink.sourceSystemName = some sourceSystemName) (hsystem' : sourceSystemName ≠ []) :
    Lands env readType source sink ↔ readType ≠ .kafka ∧ env.runId ≠ [] := by
  rw [Lands, InitOperator.exists_buildConfigs_iff hsource hcredential hcredential' hsystem hsystem']
  exact and_iff_left fun cfg ctx _ _ _ hexecute => exists_path_of_execute hexecute

/-- A `source` section of a Kafka topic. -/
def ordersTopic : SourceSection where
  credentialRef := some "kafka".toList
  topic := some "orders-events".toList

/-- A `sink` section with both names. -/
def shopSink : SinkSection where
  credentialRef := some "hadoop".toList
  sourceSystemName := some "shop".toList

/-- A table source is landed. -/
theorem lands_ordersTable : Lands ordersEnv .sql ordersTable shopSink :=
  (lands_iff rfl rfl (by decide) rfl (by decide)).mpr ⟨by decide, by decide⟩

/-- A Kafka topic is accepted by the source factory and rejected by the sink factory. -/
theorem not_lands_ordersTopic :
    (∃ config, SourceConfigFactory.create .kafka ordersTopic = .ok config) ∧
      ¬ Lands ordersEnv .kafka ordersTopic shopSink := by
  refine ⟨⟨_, rfl⟩, fun h => ?_⟩
  obtain ⟨configs, hconfigs⟩ := h.1
  exact absurd hconfigs (by rintro ⟨⟩)

end BatchIngestion
