import BatchIngestion.Envelope

/-!
# Which runs share a directory

The path of a run has no trace of its DAG, its time is cut to seconds and its run
identifier is sanitised. What is left decides whether two runs land in one directory.
-/

namespace BatchIngestion

open Python Library

/-! ### The partitions tell runs apart -/

/-- Numbers that fit their width are told apart by their digits. -/
theorem zfill_inj {w m n : ℕ} (hm : m < 10 ^ w) (hn : n < 10 ^ w) :
    zfill w m = zfill w n ↔ m = n := by
  refine ⟨fun h => ?_, fun h => h ▸ rfl⟩
  have hread := readDigits_zfill_of_lt hm []
  rw [h, readDigits_zfill_of_lt hn, Option.some.injEq, Prod.mk.injEq] at hread
  exact hread.1.symm

/-- Dates are told apart by their texts. -/
theorem dateIsoformat_inj {d d' : Date} : dateIsoformat d = dateIsoformat d' ↔ d = d' := by
  refine ⟨fun h => ?_, fun h => h ▸ rfl⟩
  have hread := dateFromisoformat_dateIsoformat d
  rw [h, dateFromisoformat_dateIsoformat] at hread
  exact (Option.some.inj hread).symm

/-- Two local times have the same hour, minute and second. -/
def SameClock (d d' : NaiveDateTime) : Prop :=
  d.hour = d'.hour ∧ d.minute = d'.minute ∧ d.second = d'.second

/-- Times are told apart by their texts up to the second. -/
theorem strftimeClock_inj {d d' : NaiveDateTime} :
    strftimeClock d = strftimeClock d' ↔ SameClock d d' := by
  obtain ⟨hh, hm, hs, -⟩ := d.time_bounds
  obtain ⟨hh', hm', hs', -⟩ := d'.time_bounds
  have hhour := zfill_inj (w := 2) (m := d.hour) (n := d'.hour) (by omega) (by omega)
  have hminute := zfill_inj (w := 2) (m := d.minute) (n := d'.minute) (by omega) (by omega)
  have hsecond := zfill_inj (w := 2) (m := d.second) (n := d'.second) (by omega) (by omega)
  rw [SameClock, ← hhour, ← hminute, ← hsecond, strftimeClock, strftimeClock]
  constructor
  · intro h
    obtain ⟨hhours, h⟩ := List.append_inj h (by simp)
    obtain ⟨hminutes, h⟩ := List.append_inj (List.cons.inj h).2 (by simp)
    exact ⟨hhours, hminutes, (List.cons.inj h).2⟩
  · rintro ⟨hhours, hminutes, hseconds⟩
    rw [hhours, hminutes, hseconds]

/-- Two runs have the same partition directories exactly when their dates, their times up to
the second and their sanitised identifiers agree. -/
theorem partitionNames_inj {cfg cfg' : SinkConfig} :
    partitionNames cfg = partitionNames cfg' ↔
      cfg.ingestionDate = cfg'.ingestionDate ∧
      SameClock cfg.ingestionTime.naive cfg'.ingestionTime.naive ∧
      safeRunId cfg.runId = safeRunId cfg'.runId := by
  simp only [partitionNames, List.cons.injEq, List.append_cancel_left_eq, dateIsoformat_inj,
    strftimeClock_inj, and_true]

/-- Two paths in one sink agree exactly when the directories of the sources and the partition
directories agree. -/
theorem buildWritePath_inj {cfg cfg' : SinkConfig} (hkind : cfg.sourceConfig.isTableOrPath = true)
    (hkind' : cfg'.sourceConfig.isTableOrPath = true) (hendpoint : cfg.endpoint = cfg'.endpoint) :
    buildWritePath cfg = buildWritePath cfg' ↔
      sourceDirectory cfg = sourceDirectory cfg' ∧ partitionNames cfg = partitionNames cfg' := by
  rw [buildWritePath_eq hkind, buildWritePath_eq hkind', hendpoint, Except.ok.injEq,
    List.append_cancel_left_eq,
    (wellFormed_sourceDirectory cfg).2.toText_inj (wellFormed_sourceDirectory cfg').2,
    PurePath.mk.injEq]
  constructor
  · rintro ⟨hroot, hnames⟩
    obtain ⟨hdirectory, hpartitions⟩ := List.append_inj' hnames rfl
    exact ⟨PurePath.ext hroot hdirectory, hpartitions⟩
  · rintro ⟨hdirectory, hpartitions⟩
    rw [hdirectory, hpartitions]
    exact ⟨rfl, rfl⟩

/-! ### Two runs -/

/-- The partition directories of two runs are those of their intervals and identifiers. -/
theorem InitOperator.Builds.partitionNames_inj {env env' : Env} {cfg cfg' : PipelineConfig}
    {ctx ctx' : RunContext} (h : Builds env cfg ctx) (h' : Builds env' cfg' ctx') :
    partitionNames ctx.sinkConfig = partitionNames ctx'.sinkConfig ↔
      env.dataIntervalStart.naive.date = env'.dataIntervalStart.naive.date ∧
      SameClock env.dataIntervalStart.naive env'.dataIntervalStart.naive ∧
      safeRunId env.runId = safeRunId env'.runId := by
  rw [BatchIngestion.partitionNames_inj, h.coherent.sink_date, h.coherent.sink_time,
    h.coherent.sink_run, h'.coherent.sink_date, h'.coherent.sink_time, h'.coherent.sink_run,
    h.date, h.time, h.run, h'.date, h'.time, h'.run]

/-- **When two runs share a directory**: exactly when they land the same source directory,
their intervals start at the same local second, and their identifiers agree after the
substitution. The DAG takes no part. -/
theorem sharedDirectory_iff {env env' : InitOperator.Env} {cfg cfg' : PipelineConfig}
    {ctx ctx' : RunContext} (h : InitOperator.execute env cfg = .ok ctx)
    (h' : InitOperator.execute env' cfg' = .ok ctx')
    (hendpoint : ctx.sinkConfig.endpoint = ctx'.sinkConfig.endpoint) :
    buildWritePath ctx.sinkConfig = buildWritePath ctx'.sinkConfig ↔
      sourceDirectory ctx.sinkConfig = sourceDirectory ctx'.sinkConfig ∧
      env.dataIntervalStart.naive.date = env'.dataIntervalStart.naive.date ∧
      SameClock env.dataIntervalStart.naive env'.dataIntervalStart.naive ∧
      safeRunId env.runId = safeRunId env'.runId := by
  have hbuilds := InitOperator.builds_of_execute h
  have hbuilds' := InitOperator.builds_of_execute h'
  rw [buildWritePath_inj hbuilds.coherent.isTableOrPath hbuilds'.coherent.isTableOrPath hendpoint,
    hbuilds.partitionNames_inj hbuilds']

/-- A run of a DAG that lands the orders table on a name node. -/
def lakeEnv (dagId runId : Text) : InitOperator.Env :=
  { ordersEnv with
    dagId, runId
    getSecret _ := .ok { endpoint := some "hdfs://namenode:9000".toList } }

/-- Every such run with an identifier has a context. -/
theorem exists_lakeContext (dagId : Text) {runId : Text} (hrun : runId ≠ []) :
    ∃ ctx, InitOperator.execute (lakeEnv dagId runId) (ordersConfig "sql" ordersTable []) =
        .ok ctx ∧
      (ctx.dagId, ctx.runId) = (dagId, runId) ∧
      ctx.sinkConfig.endpoint = "hdfs://namenode:9000" ∧
      baseParts ctx.sinkConfig = ["shop", "shop", "default", "orders"].map String.toList := by
  obtain ⟨c, rest, rfl⟩ := List.exists_cons_of_ne_nil hrun
  exact ⟨_, rfl, rfl, rfl, rfl⟩

/-- Two such runs share a directory when their sanitised identifiers agree. -/
theorem lakeContext_shared (dagId dagId' : Text) {runId runId' : Text} (hrun : runId ≠ [])
    (hrun' : runId' ≠ []) (hsafe : safeRunId runId = safeRunId runId') :
    ∃ ctx ctx',
      InitOperator.execute (lakeEnv dagId runId) (ordersConfig "sql" ordersTable []) = .ok ctx ∧
      InitOperator.execute (lakeEnv dagId' runId') (ordersConfig "sql" ordersTable []) = .ok ctx' ∧
      (ctx.dagId, ctx.runId) = (dagId, runId) ∧ (ctx'.dagId, ctx'.runId) = (dagId', runId') ∧
      ctx.sinkConfig.endpoint = ctx'.sinkConfig.endpoint ∧
      buildWritePath ctx.sinkConfig = buildWritePath ctx'.sinkConfig := by
  obtain ⟨ctx, h, hids, hendpoint, hbase⟩ := exists_lakeContext dagId hrun
  obtain ⟨ctx', h', hids', hendpoint', hbase'⟩ := exists_lakeContext dagId' hrun'
  have hboth := hendpoint.trans hendpoint'.symm
  have hdirectory : sourceDirectory ctx.sinkConfig = sourceDirectory ctx'.sinkConfig := by
    rw [sourceDirectory, sourceDirectory, hboth, hbase, hbase']
  have hbuilds := InitOperator.builds_of_execute h
  have hbuilds' := InitOperator.builds_of_execute h'
  refine ⟨ctx, ctx', h, h', hids, hids', hboth, ?_⟩
  rw [buildWritePath_inj hbuilds.coherent.isTableOrPath hbuilds'.coherent.isTableOrPath hboth,
    hbuilds.partitionNames_inj hbuilds']
  exact ⟨hdirectory, rfl, ⟨rfl, rfl, rfl⟩, hsafe⟩

/-- Runs of one DAG on two days have different directories. -/
theorem sharedDirectory_orders : ∃ ctx ctx',
    InitOperator.execute (lakeEnv "orders" "scheduled__2024-01-01")
      (ordersConfig "sql" ordersTable []) = .ok ctx ∧
    InitOperator.execute (lakeEnv "orders" "scheduled__2024-01-02")
      (ordersConfig "sql" ordersTable []) = .ok ctx' ∧
    buildWritePath ctx.sinkConfig ≠ buildWritePath ctx'.sinkConfig := by
  obtain ⟨ctx, h, -, hendpoint, -⟩ := exists_lakeContext "orders"
    (show ("scheduled__2024-01-01" : Text) ≠ [] by decide +kernel)
  obtain ⟨ctx', h', -, hendpoint', -⟩ := exists_lakeContext "orders"
    (show ("scheduled__2024-01-02" : Text) ≠ [] by decide +kernel)
  refine ⟨ctx, ctx', h, h', fun hpath => ?_⟩
  have hshared := (sharedDirectory_iff h h' (hendpoint.trans hendpoint'.symm)).mp hpath
  exact absurd hshared.2.2.2 (by decide +kernel)

/-- Two pairs of different runs share a directory: scheduled runs of two DAGs with one source,
and manual runs whose identifiers differ in a dash. -/
theorem sharedDirectory_backfill :
    (∃ ctx ctx',
      InitOperator.execute (lakeEnv "orders" "scheduled__2024-01-01")
        (ordersConfig "sql" ordersTable []) = .ok ctx ∧
      InitOperator.execute (lakeEnv "orders_backfill" "scheduled__2024-01-01")
        (ordersConfig "sql" ordersTable []) = .ok ctx' ∧
      (ctx.dagId, ctx.runId) ≠ (ctx'.dagId, ctx'.runId) ∧
      ctx.sinkConfig.endpoint = ctx'.sinkConfig.endpoint ∧
      buildWritePath ctx.sinkConfig = buildWritePath ctx'.sinkConfig) ∧
    ∃ ctx ctx',
      InitOperator.execute (lakeEnv "orders" "manual-1") (ordersConfig "sql" ordersTable []) =
        .ok ctx ∧
      InitOperator.execute (lakeEnv "orders" "manual_1") (ordersConfig "sql" ordersTable []) =
        .ok ctx' ∧
      (ctx.dagId, ctx.runId) ≠ (ctx'.dagId, ctx'.runId) ∧
      ctx.sinkConfig.endpoint = ctx'.sinkConfig.endpoint ∧
      buildWritePath ctx.sinkConfig = buildWritePath ctx'.sinkConfig := by
  obtain ⟨a, b, ha, hb, haids, hbids, hshop⟩ := lakeContext_shared "orders" "orders_backfill"
    (show ("scheduled__2024-01-01" : Text) ≠ [] by decide +kernel)
    (show ("scheduled__2024-01-01" : Text) ≠ [] by decide +kernel) rfl
  obtain ⟨c, d, hc, hd, hcids, hdids, hmanual⟩ := lakeContext_shared "orders" "orders"
    (show ("manual-1" : Text) ≠ [] by decide +kernel)
    (show ("manual_1" : Text) ≠ [] by decide +kernel) (by decide +kernel)
  refine ⟨⟨a, b, ha, hb, ?_, hshop⟩, c, d, hc, hd, ?_, hmanual⟩
  · rw [haids, hbids]
    decide +kernel
  · rw [hcids, hdids]
    decide +kernel

end BatchIngestion
