import BatchIngestion.Envelope

/-!
# Where a run is placed in the sink

A write path should extend the endpoint by the label of the origin system, the names of
the source and the partitions, and have no colon below the authority, which HDFS rejects.
Only a leading slash of a source path is stripped, and only the run identifier is sanitised.
-/

namespace BatchIngestion

open Python Library

/-- An endpoint `scheme://authority[/prefix]`. -/
structure EndpointUri where
  /-- The scheme. -/
  scheme : Text
  /-- The authority: a host with an optional port, or a bucket. -/
  authority : Text
  /-- The prefix with its leading slash, or nothing. -/
  path : Text
  /-- A colon ends the scheme. -/
  scheme_colon : ':' ∉ scheme
  /-- The authority is one name of a path. -/
  authority_name : PurePath.IsName authority
  /-- A slash ends the authority. -/
  path_slash : path = [] ∨ PurePath.IsAbsolute path

namespace EndpointUri

/-- The text of an endpoint. -/
def toText (uri : EndpointUri) : Text :=
  uri.scheme ++ (("://" : Text) ++ (uri.authority ++ uri.path))

/-- The scheme of an endpoint is told apart from what follows it. -/
theorem splitEndpoint_toText (uri : EndpointUri) :
    splitEndpoint uri.toText = (uri.scheme ++ ("://" : Text), uri.authority ++ uri.path) := by
  rw [splitEndpoint, toText, splitOnce_append (c := ':') rfl uri.scheme_colon]

/-- The names of an endpoint: its authority, then those of its prefix. -/
theorem namesOf_location (uri : EndpointUri) :
    PurePath.namesOf (uri.authority ++ uri.path) =
      uri.authority :: PurePath.namesOf uri.path := by
  rcases uri.path_slash with hpath | hpath
  · rw [hpath, List.append_nil, PurePath.namesOf_of_isName uri.authority_name]
    rfl
  · obtain ⟨rest, hrest⟩ : ∃ rest, uri.path = '/' :: rest := List.head?_eq_some_iff.mp hpath
    rw [hrest, PurePath.namesOf_append_slash, PurePath.namesOf_of_isName uri.authority_name,
      PurePath.namesOf_cons_slash]
    rfl

/-- What follows the scheme is relative: it starts with the authority. -/
theorem location_relative (uri : EndpointUri) :
    ¬ PurePath.IsAbsolute (uri.authority ++ uri.path) := by
  obtain ⟨hne, -, hslash⟩ := uri.authority_name
  obtain ⟨c, rest, hauthority⟩ := List.exists_cons_of_ne_nil hne
  rw [hauthority] at hslash ⊢
  intro habsolute
  have hc : c = '/' := by simpa [PurePath.IsAbsolute] using habsolute
  exact hslash (hc ▸ List.mem_cons_self)

end EndpointUri

/-- A write path stays inside the sink and is legal there: its names are those of the endpoint,
the label, the source and the partitions, and there is no colon below the authority. -/
def StaysInside (uri : EndpointUri) (cfg : SinkConfig) : Prop :=
  ∃ location, buildWritePath cfg = .ok (uri.scheme ++ ("://" : Text) ++ location) ∧
    PurePath.namesOf location = PurePath.namesOf (uri.authority ++ uri.path) ++
      (baseParts cfg).flatMap PurePath.namesOf ++ partitionNames cfg ∧
    ∀ name ∈ (PurePath.namesOf location).tail, ':' ∉ name

/-- The source directory under an endpoint. -/
theorem sourceDirectory_eq {uri : EndpointUri} {cfg : SinkConfig}
    (hendpoint : cfg.endpoint = uri.toText) :
    sourceDirectory cfg = PurePath.join ⟨[], uri.authority :: PurePath.namesOf uri.path⟩
      (PurePath.ofParts (baseParts cfg)) := by
  rw [sourceDirectory, hendpoint, uri.splitEndpoint_toText, PurePath.ofParts, List.foldl_cons,
    List.foldl_nil, PurePath.joinPart_of_relative _ uri.location_relative, uri.namesOf_location]
  rfl

/-- The source directory has the names of the endpoint and of all parts exactly when no part
starts with a slash: an absolute part drops what stands before it. -/
theorem sourceDirectory_names_iff {uri : EndpointUri} {cfg : SinkConfig}
    (hendpoint : cfg.endpoint = uri.toText) :
    (sourceDirectory cfg).names = PurePath.namesOf (uri.authority ++ uri.path) ++
        (baseParts cfg).flatMap PurePath.namesOf ↔
      ∀ part ∈ baseParts cfg, ¬ PurePath.IsAbsolute part := by
  rw [sourceDirectory_eq hendpoint, uri.namesOf_location]
  constructor
  · intro hnames part hpart habsolute
    have hroot : (PurePath.ofParts (baseParts cfg)).root ≠ [] :=
      PurePath.foldl_joinPart_root _ _ (.inr ⟨part, hpart, habsolute⟩)
    rw [PurePath.join, if_neg hroot] at hnames
    have hlength := PurePath.length_names_foldl_joinPart_le (baseParts cfg) ⟨[], []⟩
    rw [← PurePath.ofParts, hnames] at hlength
    simp only [List.length_append, List.length_cons, List.length_nil] at hlength
    omega
  · intro hrelative
    rw [PurePath.ofParts, PurePath.foldl_joinPart_of_relative hrelative]
    rfl

/-- No name below the authority has a colon exactly when no part has one. -/
theorem names_colon_iff {uri : EndpointUri} {cfg : SinkConfig} :
    (∀ name ∈ (PurePath.namesOf (uri.authority ++ uri.path) ++
        (baseParts cfg).flatMap PurePath.namesOf ++ partitionNames cfg).tail, ':' ∉ name) ↔
      ∀ part ∈ uri.path :: baseParts cfg, ':' ∉ part := by
  have hpart : ∀ part : Text, (∀ name ∈ PurePath.namesOf part, ':' ∉ name) ↔ ':' ∉ part := by
    intro part
    rw [← PurePath.exists_mem_namesOf_iff (by decide) (by decide) part]
    simp only [not_exists, not_and]
  have hpartitions : ∀ name ∈ partitionNames cfg, ':' ∉ name :=
    fun name hname hcolon => (ne_separator_of_mem_partitionNames hname hcolon).2 rfl
  rw [uri.namesOf_location, List.cons_append, List.cons_append, List.tail_cons]
  simp only [List.forall_mem_append, List.forall_mem_flatMap, List.forall_mem_cons, hpart]
  exact and_iff_left hpartitions

/-- A write path stays inside exactly when its directory has all names and none has a colon. -/
theorem staysInside_iff_names {uri : EndpointUri} {cfg : SinkConfig}
    (hkind : cfg.sourceConfig.isTableOrPath = true) (hendpoint : cfg.endpoint = uri.toText) :
    StaysInside uri cfg ↔
      (sourceDirectory cfg).names = PurePath.namesOf (uri.authority ++ uri.path) ++
        (baseParts cfg).flatMap PurePath.namesOf ∧
      ∀ name ∈ (PurePath.namesOf (uri.authority ++ uri.path) ++
        (baseParts cfg).flatMap PurePath.namesOf ++ partitionNames cfg).tail, ':' ∉ name := by
  have hpath := buildWritePath_eq hkind
  have hnames := (wellFormed_sourceDirectory cfg).2.namesOf_toText
  rw [hendpoint, uri.splitEndpoint_toText] at hpath
  constructor
  · rintro ⟨location, hlocation, hall, hcolon⟩
    rw [hpath, Except.ok.injEq, List.append_cancel_left_eq] at hlocation
    rw [hall] at hcolon
    rw [← hlocation, hnames] at hall
    exact ⟨List.append_cancel_right hall, hcolon⟩
  · rintro ⟨hdirectory, hcolon⟩
    rw [hdirectory] at hnames
    refine ⟨_, hpath, ?_, ?_⟩
    · rw [hdirectory, hnames]
    · rw [hdirectory, hnames]
      exact hcolon

/-- **When a write path stays inside the sink**: exactly when no part of the base path starts
with a slash, and neither the prefix of the endpoint nor a part has a colon. -/
theorem staysInside_iff {uri : EndpointUri} {cfg : SinkConfig}
    (hvalid : SinkConfigFactory.validate cfg.credentialRef cfg.sourceSystemName cfg.runId
      cfg.sourceConfig = .ok ())
    (hendpoint : cfg.endpoint = uri.toText) :
    StaysInside uri cfg ↔
      (∀ part ∈ baseParts cfg, ¬ PurePath.IsAbsolute part) ∧
        ∀ part ∈ uri.path :: baseParts cfg, ':' ∉ part := by
  have hkind := (SinkConfigFactory.validate_eq_ok_iff.mp hvalid).2
  rw [staysInside_iff_names hkind hendpoint, sourceDirectory_names_iff hendpoint, names_colon_iff]

/-- A name node as an endpoint. -/
def namenode : EndpointUri where
  scheme := "hdfs"
  authority := "namenode:9000"
  path := []
  scheme_colon := by decide +kernel
  authority_name := by
    refine ⟨?_, ?_, ?_⟩ <;> decide +kernel
  path_slash := .inl rfl

/-- The sink of a run on the name node. -/
def namenodeSink (sourceSystemName : Text) (sourceConfig : SourceConfig) : SinkConfig where
  endpoint := namenode.toText
  credentialRef := "hadoop"
  sourceSystemName
  ingestionDate := newYear.naive.date
  ingestionTime := newYear
  runId := "manual__2024-01-01"
  sourceConfig
  extra := []
  fileFormat := "parquet"

/-- A path source as it is injected. -/
def exportsSource (path : Text) : SourceConfig := .path {
  credentialRef := "ref"
  extra := []
  readOptions := []
  path
  fileFormat := "parquet"
  checkpointColumn := none }

/-- An absolute path on the file system of the source stays inside. -/
theorem staysInside_exports :
    StaysInside namenode (namenodeSink "sftp-partner" (exportsSource "/exports")) :=
  (staysInside_iff (by decide +kernel) rfl).mpr ⟨by decide +kernel, by decide +kernel⟩

/-- A source in a bucket brings the colon of its scheme into the path, and a label with a leading
slash drops the endpoint. -/
theorem not_staysInside_bucket :
    ¬ StaysInside namenode
        (namenodeSink "sftp-partner" (exportsSource "s3a://raw-bucket/exports/")) ∧
      ¬ StaysInside namenode (namenodeSink "/sftp-partner" (exportsSource "/exports")) := by
  rw [staysInside_iff_names rfl rfl, staysInside_iff_names rfl rfl]
  decide +kernel

end BatchIngestion
