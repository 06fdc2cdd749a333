import BatchIngestion.ConfigFactory
import BatchIngestion.Python.IsoRoundTrip
import BatchIngestion.Python.PurePath

/-!
# The output path of a run

`BaseWriteAdapter.build_write_path` derives the directory that a run writes to
from its sink configuration. It has a base path for table and path sources only.
-/

namespace BatchIngestion

open Python Library

/-- `DEFAULT_SCHEMA_NAME`. -/
def defaultSchemaName : Text := "default"

/-- The base path of a source, or the `TypeError` of the last branch. -/
def writeBase (cfg : SinkConfig) : Except PyExc PurePath :=
  match cfg.sourceConfig with
  | .table source =>
    let schemaName := if source.schema = [] then defaultSchemaName else source.schema
    .ok (PurePath.ofParts [cfg.sourceSystemName, source.database, schemaName, source.table])
  | .path source =>
    let normalisedPath := source.path.dropWhile (· == '/')
    .ok (PurePath.ofParts [cfg.sourceSystemName, normalisedPath])
  | .kafka _ => .error (.typeError
      (("Unsupported source_config type: <class 'adapters.source.base_read_adapter." : Text) ++
        cfg.sourceConfig.className ++ ("'>" : Text)))

/-- `re.sub(r"[^a-zA-Z0-9]", "_", run_id)`. -/
def safeRunId (runId : Text) : Text := runId.map fun c => if c.isAlphanum then c else '_'

/-- `ingestion_time.strftime('%H-%M-%S')`. -/
def strftimeClock (d : NaiveDateTime) : Text :=
  zfill 2 d.hour ++ '-' :: (zfill 2 d.minute ++ '-' :: zfill 2 d.second)

/-- The partition directories of a run. -/
def writePartitions (cfg : SinkConfig) : PurePath :=
  PurePath.ofParts [
    ("ingestion_date=" : Text) ++ dateIsoformat cfg.ingestionDate,
    ("ingestion_time=" : Text) ++ strftimeClock cfg.ingestionTime.naive,
    ("run_id=" : Text) ++ safeRunId cfg.runId]

/-- `BaseWriteAdapter.build_write_path`. The scheme of the endpoint is kept apart from the
path, which would merge its slashes. -/
def buildWritePath (cfg : SinkConfig) : Except PyExc Text := do
  let base ← writeBase cfg
  let (scheme, endpoint) := match splitOnce "://" cfg.endpoint with
    | some (scheme, endpoint) => (scheme ++ ("://" : Text), endpoint)
    | none => ([], cfg.endpoint)
  let fullPath := ((PurePath.ofParts [endpoint]).join base).join (writePartitions cfg)
  return scheme ++ fullPath.toText

/-- A path is built exactly for table and path sources. -/
theorem exists_buildWritePath_iff {cfg : SinkConfig} :
    (∃ path, buildWritePath cfg = .ok path) ↔ cfg.sourceConfig.isTableOrPath = true := by
  unfold buildWritePath
  cases hsource : cfg.sourceConfig <;> simp [writeBase, hsource, SourceConfig.isTableOrPath]

/-! ### The parts of the path -/

/-- The parts of the base path of a table or path source. -/
def baseParts (cfg : SinkConfig) : List Text :=
  match cfg.sourceConfig with
  | .table source => [cfg.sourceSystemName, source.database,
      if source.schema = [] then defaultSchemaName else source.schema, source.table]
  | .path source => [cfg.sourceSystemName, source.path.dropWhile (· == '/')]
  | .kafka _ => []

/-- The names of the partition directories of a run. -/
def partitionNames (cfg : SinkConfig) : List Text := [
  ("ingestion_date=" : Text) ++ dateIsoformat cfg.ingestionDate,
  ("ingestion_time=" : Text) ++ strftimeClock cfg.ingestionTime.naive,
  ("run_id=" : Text) ++ safeRunId cfg.runId]

/-- The scheme of an endpoint with its separator, and what follows it. -/
def splitEndpoint (endpoint : Text) : Text × Text :=
  match splitOnce "://" endpoint with
  | some (scheme, rest) => (scheme ++ ("://" : Text), rest)
  | none => ([], endpoint)

/-- The directory of a source in the sink, which its runs have in common. -/
def sourceDirectory (cfg : SinkConfig) : PurePath :=
  (PurePath.ofParts [(splitEndpoint cfg.endpoint).2]).join (PurePath.ofParts (baseParts cfg))

/-- The base path of a table or path source is joined from its parts. -/
theorem writeBase_eq {cfg : SinkConfig} (h : cfg.sourceConfig.isTableOrPath = true) :
    writeBase cfg = .ok (PurePath.ofParts (baseParts cfg)) := by
  unfold writeBase baseParts
  cases hsource : cfg.sourceConfig with
  | table source => rfl
  | path source => rfl
  | kafka source => simp [hsource, SourceConfig.isTableOrPath] at h

/-- A digit is no separator. -/
theorem digitChar_ne_separator {d : ℕ} (hd : d < 10) : d.digitChar ≠ '/' ∧ d.digitChar ≠ ':' := by
  revert d
  decide

/-- Fixed-width digits have no separator. -/
theorem ne_separator_of_mem_zfill {w n : ℕ} {c : Char} (hc : c ∈ zfill w n) :
    c ≠ '/' ∧ c ≠ ':' := by
  obtain ⟨d, hd, rfl⟩ := exists_digitChar_of_mem_zfill hc
  exact digitChar_ne_separator hd

/-- A sanitised run identifier has no separator. -/
theorem ne_separator_of_mem_safeRunId {runId : Text} {c : Char} (hc : c ∈ safeRunId runId) :
    c ≠ '/' ∧ c ≠ ':' := by
  obtain ⟨d, -, rfl⟩ := List.mem_map.mp hc
  split
  · rename_i hd
    constructor <;> rintro rfl <;> exact absurd hd (by decide)
  · decide

/-- The partition directories have no separator in their names. -/
theorem ne_separator_of_mem_partitionNames {cfg : SinkConfig} {name : Text}
    (hname : name ∈ partitionNames cfg) {c : Char} (hc : c ∈ name) : c ≠ '/' ∧ c ≠ ':' := by
  have hlabels : (["ingestion_date=", "ingestion_time=", "run_id="] : List Text).all
      (fun label => label.all fun c => c ≠ '/' ∧ c ≠ ':') = true := by decide +kernel
  have hlabel : ∀ label ∈ (["ingestion_date=", "ingestion_time=", "run_id="] : List Text),
      ∀ c ∈ label, c ≠ '/' ∧ c ≠ ':' := fun label hlabel c hc =>
    of_decide_eq_true (List.all_eq_true.mp (List.all_eq_true.mp hlabels label hlabel) c hc)
  have hdash : ('-' : Char) ≠ '/' ∧ ('-' : Char) ≠ ':' := by decide
  simp only [partitionNames, List.mem_cons, List.not_mem_nil, or_false] at hname
  rcases hname with rfl | rfl | rfl <;> rcases List.mem_append.mp hc with hc | hc
  · exact hlabel _ (by simp) c hc
  · simp only [dateIsoformat, isoDate, List.mem_append, List.mem_cons] at hc
    rcases hc with hc | rfl | hc | rfl | hc <;>
      first | exact hdash | exact ne_separator_of_mem_zfill hc
  · exact hlabel _ (by simp) c hc
  · simp only [strftimeClock, List.mem_append, List.mem_cons] at hc
    rcases hc with hc | rfl | hc | rfl | hc <;>
      first | exact hdash | exact ne_separator_of_mem_zfill hc
  · exact hlabel _ (by simp) c hc
  · exact ne_separator_of_mem_safeRunId hc

/-- The partition directories are names. -/
theorem isName_of_mem_partitionNames {cfg : SinkConfig} {name : Text}
    (hname : name ∈ partitionNames cfg) : PurePath.IsName name := by
  have hslash : '/' ∉ name := fun hc => (ne_separator_of_mem_partitionNames hname hc).1 rfl
  simp only [partitionNames, List.mem_cons, List.not_mem_nil, or_false] at hname
  rcases hname with rfl | rfl | rfl <;> refine ⟨?_, ?_, hslash⟩ <;> intro heq <;>
    simpa using congrArg List.head? heq

/-- The partition directories are relative and are all kept. -/
theorem writePartitions_eq (cfg : SinkConfig) : writePartitions cfg = ⟨[], partitionNames cfg⟩ := by
  have hrelative : ∀ name ∈ partitionNames cfg, ¬ PurePath.IsAbsolute name := by
    intro name hname habsolute
    exact (isName_of_mem_partitionNames hname).2.2 (List.mem_of_mem_head? habsolute)
  have hnames : (partitionNames cfg).flatMap PurePath.namesOf = partitionNames cfg := by
    refine (List.flatMap_congr fun name hname => ?_).trans (List.flatMap_singleton' _)
    exact PurePath.namesOf_of_isName (isName_of_mem_partitionNames hname)
  change PurePath.ofParts (partitionNames cfg) = _
  rw [PurePath.ofParts, PurePath.foldl_joinPart_of_relative hrelative, hnames, List.nil_append]

/-- **The path of a run**: the partition directories in the directory of its source. -/
theorem buildWritePath_eq {cfg : SinkConfig} (h : cfg.sourceConfig.isTableOrPath = true) :
    buildWritePath cfg = .ok ((splitEndpoint cfg.endpoint).1 ++ PurePath.toText
      ⟨(sourceDirectory cfg).root, (sourceDirectory cfg).names ++ partitionNames cfg⟩) := by
  have hjoin : (sourceDirectory cfg).join (writePartitions cfg) =
      ⟨(sourceDirectory cfg).root, (sourceDirectory cfg).names ++ partitionNames cfg⟩ := by
    rw [writePartitions_eq]
    rfl
  rw [buildWritePath, writeBase_eq h, ok_bind, ← hjoin, sourceDirectory, splitEndpoint]
  cases splitOnce "://" cfg.endpoint <;> rfl

/-- The directory of a source is a well-formed path, also with the partitions. -/
theorem wellFormed_sourceDirectory (cfg : SinkConfig) :
    (sourceDirectory cfg).WellFormed ∧ PurePath.WellFormed
      ⟨(sourceDirectory cfg).root, (sourceDirectory cfg).names ++ partitionNames cfg⟩ := by
  have hdirectory : (sourceDirectory cfg).WellFormed :=
    (PurePath.wellFormed_ofParts _).join (PurePath.wellFormed_ofParts _)
  refine ⟨hdirectory, hdirectory.root, fun name hname => ?_⟩
  rcases List.mem_append.mp hname with hname | hname
  · exact hdirectory.names name hname
  · exact isName_of_mem_partitionNames hname

end BatchIngestion
