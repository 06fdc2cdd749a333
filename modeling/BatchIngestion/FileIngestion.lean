import BatchIngestion.CatchUp
import BatchIngestion.Envelope
import BatchIngestion.Library.Watermark

/-!
# The ingestion of files

A path source is copied and not read: no run evaluates a DataFrame, and the checkpoint of the run
filters nothing. What a run copies is what is there when it copies, later than the listing whose
latest modification time becomes its `checkpoint_to`. A file that was modified up to a stored
time was there when the time was taken, and hence when it was copied.
-/

namespace BatchIngestion

open Python Library

variable {ι σ : Type}

/-! ### Files -/

/-- A version of a file. -/
structure StoredFile where
  /-- The path, or the key of the object. -/
  key : Text
  /-- The modification time. -/
  modified : DateTime
  /-- The contents, identified by a number. -/
  version : ℕ
  deriving DecidableEq

/-- The place of a file in the order of the modification times. -/
def StoredFile.rank (file : StoredFile) : ℤ := file.modified.instant

/-- Files are created and modified with times later than every reported one; files may
disappear. -/
def arrives (files : σ → List StoredFile) (reported : List CheckpointValue) (state next : σ) :
    Bool :=
  (files next).all fun file =>
    decide (file ∈ files state) || reported.all fun v => decide (v.rank < file.rank)

/-- The runs of one DAG over a path source, whose files arrive. -/
def DagFactory.pathDag (dagId : Text) (source : Source σ (List StoredFile)) (info : ι → RunInfo) :
    System ι σ (List StoredFile) :=
  oneDag dagId source info (arrives source.copied)

/-- The files of a state. -/
def Source.files (source : Source σ (List StoredFile)) (state : σ) : Set StoredFile :=
  {file | file ∈ source.copied state}

/-- The files that some run has copied. -/
def copiedFiles (log : List (ι × Action σ (List StoredFile))) : Set StoredFile :=
  {file | ∃ i b, Landed log i b ∧ file ∈ b}

/-- Files that arrive rank above every reported value. -/
theorem fresh_of_arrives {source : Source σ (List StoredFile)} {reported : List CheckpointValue}
    {state next : σ} (h : arrives source.copied reported state next = true) :
    Fresh StoredFile.rank {n | ∃ v ∈ reported, v.rank = n} (source.files state)
      (source.files next) := by
  intro file hfile
  have hone := List.all_eq_true.mp h file hfile
  rw [Bool.or_eq_true, decide_eq_true_iff, List.all_eq_true] at hone
  refine hone.imp_right fun hlater => ?_
  rintro - ⟨v, hv, rfl⟩
  exact of_decide_eq_true (hlater v hv)

section Runs

variable [DecidableEq ι]

/-! ### What is copied -/

/-- A run of a path source does not evaluate a DataFrame. -/
theorem Simulates.not_evaluates {β : Type} {sys : System ι σ β} {store : Text → Option Text}
    {s : State ι σ β} (hs : Simulates sys store s) {i : ι}
    (hpath : (sys.dag i).source.config.isPath = true) {e : Event ι σ} :
    ¬ (s.Performs e i .countRecords ∨ s.Performs e i .scan) := by
  have hnot {step : Step} (hstep : step = .countRecords ∨ step = .scan) :
      ¬ s.Performs e i step := by
    rintro ⟨outside, rest, -, -, htodo⟩
    have htask : (s.runs i).task = .sparkRun := by
      rw [(hs.tracks i).task_eq htodo]
      rcases hstep with rfl | rfl <;> rfl
    have hmem := (hs.tracks i).suffix.subset (htodo ▸ List.mem_cons_self)
    rw [htask] at hmem
    exact absurd ((Source.isPath_of_evaluates_mem hstep hmem).symm.trans hpath) (by simp)
  rintro (h | h)
  · exact hnot (.inl rfl) h
  · exact hnot (.inr rfl) h

/-- What the runs of a path source have copied. -/
structure FilesCovered (sys : System ι σ (List StoredFile)) (source : Source σ (List StoredFile))
    (state : σ) (log : List (ι × Action σ (List StoredFile))) : Prop where
  /-- The tasks are in order. -/
  ordered : WellOrdered sys log
  /-- Nothing is read. -/
  not_read : ∀ i state b, (i, .read state b) ∉ log
  /-- A run that has copied has copied every present file up to its `checkpoint_to`. -/
  landed_covers : ∀ i b v, Landed log i b → lastTo log i = some (some v) →
    Covered StoredFile.rank (source.files state) (copiedFiles log) v.rank

variable {sys : System ι σ (List StoredFile)} {source : Source σ (List StoredFile)}
  {store : Text → Option Text} {state next : σ} {log : List (ι × Action σ (List StoredFile))}
  {i : ι} {a : Action σ (List StoredFile)}

omit [DecidableEq ι] in
/-- A file stays copied. -/
theorem copiedFiles_cons : copiedFiles log ⊆ copiedFiles ((i, a) :: log) := by
  rintro file ⟨j, b, hb, hfile⟩
  exact ⟨j, b, landed_cons.mpr (.inr hb), hfile⟩

/-- Arriving files leave nothing uncovered. -/
theorem FilesCovered.of_arrives (h : FilesCovered sys source state log)
    (harrives : arrives source.copied (reportedIn log) state next = true) :
    FilesCovered sys source next log where
  ordered := h.ordered
  not_read := h.not_read
  landed_covers i b v hb hto := (h.landed_covers i b v hb hto).of_fresh
    (fresh_of_arrives harrives) ⟨v, mem_reportedIn_of_lastTo hto, rfl⟩

/-- **A copy covers everything that is there**, and the other actions of the runs nothing less
than before. -/
theorem FilesCovered.cons (h : FilesCovered sys source state log)
    (hsource : ∀ i, (sys.dag i).source = source)
    (hallowed : sys.Allowed store state log i a) (hread : ∀ b, a ≠ .read state b) :
    FilesCovered sys source state ((i, a) :: log) where
  ordered := h.ordered.cons hallowed
  not_read j state' b hmem := by
    rcases List.mem_cons.mp hmem with heq | hmem
    · obtain ⟨rfl, rfl⟩ := Prod.mk.inj heq
      cases hallowed with
      | read => exact hread b rfl
    · exact h.not_read j state' b hmem
  landed_covers j b v hb hto := by
    rcases landed_cons.mp hb with ⟨rfl, rfl⟩ | hb
    · cases hallowed with
      | landed hinit hbatch =>
        obtain ⟨state', hmem⟩ := exists_read_of_lastBatch hbatch
        exact absurd hmem (h.not_read j state' b)
      | copied hinit hpath =>
        intro file hfile _
        refine ⟨j, _, landed_cons.mpr (.inl ⟨rfl, rfl⟩), ?_⟩
        rw [hsource j]
        exact hfile
    · rw [hallowed.lastTo_cons (h.ordered.landed_init j b hb)] at hto
      exact (h.landed_covers j b v hb hto).mono copiedFiles_cons

section Reachable

variable {dagId : Text} {info : ι → RunInfo} {es : List (Event ι σ)}
  {s : State ι σ (List StoredFile)}

/-- Overlapping runs of a path source keep the invariant. -/
theorem filesCovered_of_exec (hpath : source.config.isPath = true)
    (h : exec (DagFactory.pathDag dagId source info).step
      (State.start (DagFactory.pathDag dagId source info) state store) es = some s) :
    FilesCovered (DagFactory.pathDag dagId source info) source s.source s.log := by
  set sys := DagFactory.pathDag dagId source info
  have hsimulates : Along sys.step (fun s _ => Simulates sys store s)
      (State.start sys state store) es :=
    along_of_invariant (fun hs hstep => (sys.step_refines hs hstep).1)
      (simulates_start sys state store)
  have hstart : FilesCovered sys source state [] :=
    ⟨wellOrdered_nil sys, fun _ _ _ => List.not_mem_nil, fun _ _ _ hb => by cases hb⟩
  refine sys.ledger_invariant_along (FilesCovered sys source) hstart
    (fun hinv hmoves => hinv.of_arrives hmoves) ?_ hsimulates h
  intro s e i a hinv hs hallowed hperforms
  refine hinv.cons (fun _ => rfl) hallowed ?_
  rintro b rfl
  exact hs.not_evaluates hpath (State.performs_read hperforms)

/-- The stored checkpoint covers what is there. -/
theorem covered_of_stored (hpath : source.config.isPath = true) (hstore : store dagId = none)
    (h : exec (DagFactory.pathDag dagId source info).step
      (State.start (DagFactory.pathDag dagId source info) state store) es = some s) {text : Text}
    (htext : s.store dagId = some text) :
    Covered StoredFile.rank (source.files s.source) (copiedFiles s.log) (parseText text).rank := by
  have hinv := filesCovered_of_exec hpath h
  rw [(System.simulates_of_exec h).store_eq] at htext
  rcases System.stored_eq_some htext with hinitial | ⟨i, hsaved, -⟩
  · exact absurd (hstore.symm.trans hinitial) (by simp)
  · obtain ⟨b, hb⟩ := hinv.ordered.spark_landed i (hinv.ordered.saved_spark i text hsaved)
    exact hinv.landed_covers i b _ hb (hinv.ordered.parseText_of_saved hsaved)

end Reachable

/-! ### Every fetched checkpoint was reported -/

/-- A run without a checkpoint in the beginning starts from a value that was reported. -/
theorem System.reported_of_exec {β : Type} {sys : System ι σ β} {initial : σ}
    {store : Text → Option Text} {es : List (Event ι σ)} {s : State ι σ β}
    (hstore : ∀ i, store (sys.dag i).dagId = none)
    (h : exec sys.step (State.start sys initial store) es = some s) {i : ι} {v : CheckpointValue}
    (hv : sys.Known s i v) : v ∈ reportedIn s.log ∨ sys.maximum s i = some v := by
  have hsaved {log : List (ι × Action σ β)} (hordered : WellOrdered sys log) {j : ι} {text : Text}
      (htext : sys.stored store log (sys.dag j).dagId = some text) :
      parseText text ∈ reportedIn log := by
    rcases System.stored_eq_some htext with hinitial | ⟨k, hmem, -⟩
    · exact absurd ((hstore j).symm.trans hinitial) (by simp)
    · exact mem_reportedIn_of_lastTo (hordered.parseText_of_saved hmem)
  have hinv : WellOrdered sys s.log ∧
      ∀ i v, lastFrom s.log i = some (some v) → v ∈ reportedIn s.log := by
    refine sys.ledger_invariant (fun _ log => WellOrdered sys log ∧
        ∀ i v, lastFrom log i = some (some v) → v ∈ reportedIn log)
      ⟨wellOrdered_nil sys, by simp [lastFrom]⟩ (fun hinv _ => hinv) ?_ h
    rintro src log j a ⟨hordered, hfrom⟩ hallowed
    refine ⟨hordered.cons hallowed, fun i v hv => mem_reportedIn_cons ?_⟩
    rcases hallowed.lastFrom_cases hv with ⟨rfl, -, hrow⟩ | hv
    · rw [parseRow_text] at hrow
      obtain ⟨text, htext, rfl⟩ := Option.map_eq_some_iff.mp (Except.ok.inj hrow)
      exact hsaved hordered htext
    · exact hfrom i v hv
  cases hv with
  | stored htext =>
    rw [(System.simulates_of_exec h).store_eq] at htext
    exact .inl (hsaved hinv.1 htext)
  | fetchedFrom hfrom => exact .inl (hinv.2 i v hfrom)
  | fetchedTo hto => exact .inl (mem_reportedIn_of_lastTo hto)
  | maximum hmax => exact .inr hmax

end Runs

/-! ### Objects of a bucket -/

/-- The objects under a prefix, page by page. -/
structure Bucket where
  /-- The pages of the listing. -/
  pages : List (List StoredFile)

namespace Bucket

/-- The objects of all pages. -/
def objects (bucket : Bucket) : List StoredFile := bucket.pages.flatten

/-- The S3 client of the init task. -/
def native (bucket : Bucket) : Native :=
  { Native.down with lastModified := fun _ => .ok (bucket.pages.map (·.map StoredFile.modified)) }

/-- The object that was modified last. -/
def latest (bucket : Bucket) : Option StoredFile :=
  bucket.objects.foldl (List.argAux fun b c => c.rank < b.rank) none

end Bucket

/-- A source of the objects that lie under a path. A listing may give more objects, since the
prefix of a key need not end where a name does. -/
def s3Source (cfg : PathSourceConfig) (under : Text → Bool) (countRecords : Bool)
    (read : Bucket → Option CheckpointValue → Option CheckpointValue →
      Except PyExc (List StoredFile)) : Source Bucket (List StoredFile) where
  readType := .s3
  config := .path cfg
  countRecords := countRecords
  native := Bucket.native
  read := read
  copied bucket := bucket.objects.filter fun file => under file.key
  size := List.length

section Complete

variable [DecidableEq ι] {source : Source σ (List StoredFile)} {store : Text → Option Text}
  {state : σ} {dagId : Text} {info : ι → RunInfo} {es : List (Event ι σ)}
  {s : State ι σ (List StoredFile)}

/-- **No file is skipped.** The runs of one DAG over a path source interleave arbitrarily while
files arrive, are modified and disappear; every step may raise and be retried, and listings may
fail. If files get modification times later than what has been reported, then in every reachable
state every present file that was modified up to the stored checkpoint has been copied by some
run. -/
theorem pathIngestion_complete (hpath : source.config.isPath = true)
    (hstore : store dagId = none)
    (h : exec (DagFactory.pathDag dagId source info).step
      (State.start (DagFactory.pathDag dagId source info) state store) es = some s) {text : Text}
    (htext : s.store dagId = some text) :
    ∀ file ∈ source.copied s.source, file.rank ≤ (parseText text).rank →
      ∃ i b, Landed s.log i b ∧ file ∈ b :=
  covered_of_stored hpath hstore h htext

end Complete

/-- The orders of a bucket, as files. -/
def dailyOrders : PathSourceConfig where
  credentialRef := "s3".toList
  extra := []
  readOptions := []
  path := "s3a://lake/orders".toList
  fileFormat := "parquet".toList
  checkpointColumn := some "created".toList

/-- A source of what lies in the directory of the orders. -/
def dailySource : Source Bucket (List StoredFile) :=
  s3Source dailyOrders ("orders/".toList.isPrefixOf ·) false fun _ _ _ => .ok []

/-- A file of a day in January. -/
def dailyFile (key : Text) (day : Text) (version : ℕ) : StoredFile where
  key := key
  modified := (fromisoformat ("2024-01-".toList ++ day ++ "T00:00:00+00:00".toList)).getD newYear
  version := version

/-- The orders of the first day. -/
def firstDay : StoredFile := dailyFile "orders/1".toList "01".toList 0

/-- The orders of the second day. -/
def secondDay : StoredFile := dailyFile "orders/2".toList "02".toList 1

/-- An object that has the prefix in common with the orders. -/
def archivedDay : StoredFile := dailyFile "orders-archive/1".toList "03".toList 2

/-- The runs of the DAG `daily`, numbered. -/
def dailyDag : System ℕ Bucket (List StoredFile) :=
  DagFactory.pathDag "daily".toList dailySource fun _ => ⟨[], [], []⟩

/-- The first day, and no stored checkpoint. -/
def dailyStart : State ℕ Bucket (List StoredFile) :=
  State.start dailyDag ⟨[[firstDay]]⟩ fun _ => none

/-- A run lists the files, others arrive, a second run copies all of them, and the first run goes
on. -/
def slowListing : List (Event ℕ Bucket) :=
  (dailySource.uneventful 1 .up).take 10 ++ [.source ⟨[[firstDay, archivedDay], [secondDay]]⟩] ++
    dailySource.uneventful 2 .up ++ (dailySource.uneventful 1 .up).drop 10

/-- The first run puts its listing back as the stored one, and the file of the listing has been
copied. -/
theorem pathIngestion_complete_slowListing :
    ∃ s, exec dailyDag.step dailyStart slowListing = some s ∧
      s.store "daily".toList = some "2024-01-01T00:00:00+00:00".toList ∧
      ∃ i b, Landed s.log i b ∧ firstDay ∈ b := by
  have hrun : ((exec dailyDag.step dailyStart slowListing).bind fun s =>
      if s.store "daily".toList = some "2024-01-01T00:00:00+00:00".toList ∧
          firstDay ∈ dailySource.copied s.source ∧
          firstDay.rank ≤ (parseText "2024-01-01T00:00:00+00:00".toList).rank
        then some () else none) = some () := by decide +kernel
  obtain ⟨s, hs, hfacts⟩ := Option.bind_eq_some_iff.mp hrun
  split at hfacts
  · rename_i hall
    obtain ⟨hstore, hmem, hle⟩ := hall
    exact ⟨s, hs, hstore, pathIngestion_complete rfl rfl hs hstore firstDay hmem hle⟩
  · simp at hfacts

/-! ### A run that copies everything -/

/-- The loop over the pages finds the object that was modified last. -/
theorem InitOperator.maxFile_bucket (cfg : PathSourceConfig) (bucket : Bucket) :
    maxFile .s3 cfg bucket.native =
      .ok (bucket.latest.map fun file => .datetime file.modified) := by
  rw [maxFile, if_pos rfl]
  simp only [Bucket.native, ok_bind, pure_eq_ok, ← List.map_flatten, List.foldl_map]
  have hlatest : (bucket.latest.map fun file => CheckpointValue.datetime file.modified) =
      (bucket.latest.map StoredFile.modified).map .datetime := (Option.map_map ..).symm
  rw [hlatest]
  -- the loop over the times does what the loop over the files does
  have hloop (step : Option DateTime → StoredFile → Option DateTime) :=
    @List.foldl_hom _ _ _ (Option.map StoredFile.modified)
      (List.argAux fun b c => c.rank < b.rank) step bucket.objects none
  refine congrArg Except.ok (congrArg (Option.map CheckpointValue.datetime)
    (hloop _ fun best file => ?_))
  cases best with
  | none => rfl
  | some b =>
    simp only [Option.map_some, List.argAux, StoredFile.rank, gt_iff_lt]
    by_cases hlater : b.modified.instant < file.modified.instant <;> simp [hlater]

/-- A time can be stored. -/
theorem storable_datetime (d : DateTime) : (CheckpointValue.datetime d).Storable := by
  have hdigits : ∀ {m : ℕ}, m < 10 → '\x00' ≠ m.digitChar := by decide
  refine ⟨_, rfl, ?_⟩
  rintro t htext hnul
  obtain rfl := Option.some.inj htext
  rcases isIsoChar_of_mem_isoformat hnul with hsep | ⟨m, hm, hdigit⟩ | hmem
  · exact absurd hsep (by decide)
  · exact hdigits hm hdigit
  · exact absurd hmem (by decide)

section CatchUp

variable {cfg : PathSourceConfig} {under : Text → Bool} {countRecords : Bool}
  {read : Bucket → Option CheckpointValue → Option CheckpointValue →
    Except PyExc (List StoredFile)}

/-- The latest modification time becomes the `checkpoint_to`. -/
theorem fetchCheckpointTo_s3Source (hcolumn : cfg.checkpointColumn.getD [] ≠ [])
    (bucket : Bucket) :
    InitOperator.fetchCheckpointTo .s3 (.path cfg) bucket.native =
      bucket.latest.map fun file => .datetime file.modified := by
  obtain ⟨column, hsome, hne⟩ : ∃ column, cfg.checkpointColumn = some column ∧ column ≠ [] := by
    cases h : cfg.checkpointColumn with
    | none => simp [h] at hcolumn
    | some column => exact ⟨column, rfl, by simpa [h] using hcolumn⟩
  obtain ⟨c, column, rfl⟩ := List.exists_cons_of_ne_nil hne
  simp only [InitOperator.fetchCheckpointTo, SourceConfig.checkpointColumn, hsome,
    InitOperator.nativeMax, InitOperator.maxFile_bucket]
  rfl

variable [DecidableEq ι] {dagId : Text} {info : ι → RunInfo} {bucket : Bucket}
  {store : Text → Option Text} {es : List (Event ι Bucket)}
  {s : State ι Bucket (List StoredFile)} {i : ι}

/-- Only times are reported. -/
theorem exists_datetime_of_reported (hcolumn : cfg.checkpointColumn.getD [] ≠ [])
    (h : exec (DagFactory.pathDag dagId (s3Source cfg under countRecords read) info).step
      (State.start (DagFactory.pathDag dagId (s3Source cfg under countRecords read) info) bucket
        store) es = some s) : ∀ v ∈ reportedIn s.log, ∃ d, v = .datetime d := by
  refine System.ledger_invariant (fun _ log => ∀ v ∈ reportedIn log, ∃ d, v = .datetime d)
    (by simp [reportedIn]) (fun hinv _ => hinv) ?_ h
  intro src log j a hinv hallowed v hv
  rcases hallowed.mem_reportedIn_cases hv with hmax | hv
  · obtain ⟨file, -, rfl⟩ := Option.map_eq_some_iff.mp
      ((fetchCheckpointTo_s3Source hcolumn src).symm.trans hmax)
    exact ⟨file.modified, rfl⟩
  · exact hinv v hv

/-- Every run of the DAG is serviceable. -/
theorem s3Ingestion_serviceable (hcolumn : cfg.checkpointColumn.getD [] ≠ [])
    (hstore : store dagId = none)
    (h : exec (DagFactory.pathDag dagId (s3Source cfg under countRecords read) info).step
      (State.start (DagFactory.pathDag dagId (s3Source cfg under countRecords read) info) bucket
        store) es = some s) (i : ι) :
    (DagFactory.pathDag dagId (s3Source cfg under countRecords read) info).Serviceable s i where
  reads hpath := by cases hpath
  storable v hv := by
    rcases System.reported_of_exec (fun _ => hstore) h hv with hreported | hmax
    · obtain ⟨d, rfl⟩ := exists_datetime_of_reported hcolumn h v hreported
      exact storable_datetime d
    · obtain ⟨file, -, rfl⟩ := Option.map_eq_some_iff.mp
        ((fetchCheckpointTo_s3Source hcolumn s.source).symm.trans hmax)
      exact storable_datetime file.modified

/-- **One good run copies the whole path.** Runs of one DAG over the objects of a bucket overlap,
fail and are retried in any way while objects arrive and disappear. When a run that has yet to
list them is then completed while the bucket can be listed, every object under the path has been
copied, and the stored checkpoint is the latest modification time of the listing. -/
theorem s3Ingestion_catchesUp (hcolumn : cfg.checkpointColumn.getD [] ≠ [])
    (hstore : store dagId = none)
    (h : exec (DagFactory.pathDag dagId (s3Source cfg under countRecords read) info).step
      (State.start (DagFactory.pathDag dagId (s3Source cfg under countRecords read) info) bucket
        store) es = some s)
    (hpending : (s.runs i).Pending) {outside : Outside} (hup : outside.sourceUp = true) :
    ∃ t, exec (DagFactory.pathDag dagId (s3Source cfg under countRecords read) info).step s
        ((s3Source cfg under countRecords read).completion i outside (s.runs i)) = some t ∧
      t.source = s.source ∧
      ∀ file ∈ s.source.objects,
        (∃ text, ∃ latest ∈ s.source.objects, t.store dagId = some text ∧
          parseText text = .datetime latest.modified ∧ file.rank ≤ latest.rank) ∧
        (under file.key = true → ∃ j b, Landed t.log j b ∧ file ∈ b) := by
  obtain ⟨t, hexec, hsource, -, hsaved⟩ :=
    System.exists_catchUp (fun _ => DagFactory.saves_metricPush dagId) h hpending
      (s3Ingestion_serviceable hcolumn hstore h i) hup
  have hreach := exec_append_eq_some.mpr ⟨s, h, hexec⟩
  refine ⟨t, hexec, hsource, fun file hfile => ?_⟩
  obtain ⟨latest, hlatest⟩ : ∃ latest, s.source.latest = some latest :=
    Option.ne_none_iff_exists'.mp
      (List.argmax_eq_none.not.mpr (List.ne_nil_of_mem hfile))
  have hmem : latest ∈ s.source.objects := List.argmax_mem hlatest
  have hle : file.rank ≤ latest.rank := List.le_of_mem_argmax hfile hlatest
  have htext : (CheckpointValue.datetime latest.modified).serialise.text =
      .ok (some (isoformat 'T' latest.modified)) := rfl
  have hstored := hsaved (.datetime latest.modified) _
    ((fetchCheckpointTo_s3Source hcolumn s.source).trans (by rw [hlatest]; rfl)) htext
  have hparse := parseText_of_text (v := .datetime latest.modified) trivial htext
  refine ⟨⟨_, latest, hmem, hstored, hparse, hle⟩, fun hunder => ?_⟩
  refine covered_of_stored rfl hstore hreach hstored file ?_ ?_
  · rw [hsource]
    exact List.mem_filter.mpr ⟨hfile, hunder⟩
  · rw [hparse]
    exact hle

end CatchUp

/-- The first run cannot copy, and files arrive. -/
def failedCopy : List (Event ℕ Bucket) :=
  (dailySource.uneventful 1 .up).take 17 ++
    [.raise 1 [] false, .source ⟨[[firstDay, archivedDay], [secondDay]]⟩]

/-- The second run copies the files of both days. -/
theorem s3Ingestion_catchesUp_failedCopy :
    ∃ s t, exec dailyDag.step dailyStart failedCopy = some s ∧
      exec dailyDag.step s (dailySource.completion 2 .up (s.runs 2)) = some t ∧
      ∃ j b, Landed t.log j b ∧ secondDay ∈ b := by
  have hrun : ((exec dailyDag.step dailyStart failedCopy).bind fun s =>
      if (s.runs 1).failed = true ∧ (s.runs 2).task = .init ∧
          .fetchCheckpointTo ∈ (s.runs 2).todo ∧ secondDay ∈ s.source.objects
        then some () else none) = some () := by decide +kernel
  obtain ⟨s, hs, hfacts⟩ := Option.bind_eq_some_iff.mp hrun
  split at hfacts
  · rename_i hall
    obtain ⟨-, htask, hmem, hfile⟩ := hall
    have hcolumn : dailyOrders.checkpointColumn.getD [] ≠ [] := by
      have hcreated : "created".toList ≠ [] := by simp
      exact hcreated
    have hup : Outside.up.sourceUp = true := rfl
    obtain ⟨t, hexec, -, hcopied⟩ :=
      s3Ingestion_catchesUp hcolumn rfl hs ⟨htask, .inr hmem⟩ hup
    exact ⟨s, t, hs, hexec, (hcopied secondDay hfile).2 (by decide +kernel)⟩
  · simp at hfacts

end BatchIngestion
