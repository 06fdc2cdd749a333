import BatchIngestion.RegistrationRound

/-!
# DAGs that take names

The registration loop treats the files of a directory independently exactly as long as no DAG
takes a name that is still needed. This holds except for a few stems, which this file finds by
two arguments. Forwards, a DAG is bound only to `_dag` and to the stems of files that came
before, so the names of a later round are there. Backwards, a DAG that is bound at the end has
been bound ever since its own round, so it stood in the way of every later one.
-/

namespace BatchIngestion

open Python Library Procedure LoopNamespace

/-! ### Files and stems -/

/-- The files of a loop: names with the suffix, in strictly increasing order. -/
structure AreConfigFiles (files : List ConfigFile) : Prop where
  /-- The names increase. -/
  sorted : files.Pairwise fun file other => file.name < other.name
  /-- They have the suffix. -/
  suffix : ∀ file ∈ files, (".yaml" : Text) <:+ file.name

/-- The glob finds such files. -/
theorem ConfigDirectory.areConfigFiles (dir : ConfigDirectory) :
    AreConfigFiles dir.configFiles := by
  let rel : ConfigFile → ConfigFile → Prop := fun file other => file.name ≤ other.name
  have : Std.Total rel := ⟨fun file other => le_total file.name other.name⟩
  have : IsTrans ConfigFile rel := ⟨fun _ _ _ => le_trans⟩
  have hsorted := List.pairwise_insertionSort rel
    (dir.entries.filter fun file => (".yaml" : Text).isSuffixOf file.name)
  have hperm := List.perm_insertionSort rel
    (dir.entries.filter fun file => (".yaml" : Text).isSuffixOf file.name)
  constructor
  · have hnodup : dir.configFiles.Pairwise fun file other => file.name ≠ other.name :=
      List.pairwise_map.mp ((hperm.map ConfigFile.name).nodup_iff.mpr
        (dir.nodup.sublist (List.filter_sublist.map _)))
    exact hsorted.imp₂ (fun _ _ => lt_of_le_of_ne) hnodup
  · intro file hfile
    have hmem := List.mem_filter.mp (hperm.mem_iff.mp hfile)
    exact List.isSuffixOf_iff_suffix.mp hmem.2

/-- One of the files is such a list. -/
theorem AreConfigFiles.singleton {files : List ConfigFile} (h : AreConfigFiles files)
    {file : ConfigFile} (hfile : file ∈ files) : AreConfigFiles [file] :=
  ⟨List.pairwise_singleton .., fun other hother => by
    obtain rfl := List.mem_singleton.mp hother
    exact h.suffix other hfile⟩

/-- The files with one name are one file. -/
theorem AreConfigFiles.eq_of_name {files : List ConfigFile} (h : AreConfigFiles files)
    {file other : ConfigFile} (hfile : file ∈ files) (hother : other ∈ files)
    (hname : file.name = other.name) : file = other := by
  have hnodup : (files.map ConfigFile.name).Nodup :=
    List.pairwise_map.mpr (h.sorted.imp fun hlt => ne_of_lt hlt)
  exact List.inj_on_of_nodup_map hnodup hfile hother hname

/-- The path of a file has its name. -/
theorem ConfigFile.path_inj {file other : ConfigFile} :
    file.path = other.path ↔ file.name = other.name :=
  List.append_right_inj _

/-- The stem of a name with the suffix, which is the whole name if there is nothing else. -/
theorem stem_yaml (base : Text) :
    PurePath.stem (base ++ (".yaml" : Text)) = if base = [] then (".yaml" : Text) else base := by
  split
  · rename_i h
    subst h
    decide
  · rename_i h
    have hstem : PurePath.stem (base ++ '.' :: ("yaml" : Text)) = base :=
      PurePath.stem_append h (by decide) (by decide)
    exact hstem

/-- A file whose `dag_id` is not the suffix has the `dag_id` and the suffix for its name. -/
theorem ConfigFile.name_eq {file : ConfigFile} (hsuffix : (".yaml" : Text) <:+ file.name)
    {id : Text} (h : dagIdFromPath file = id) (hid : id ≠ ".yaml") : file.name = id ++ ".yaml" := by
  obtain ⟨base, hbase⟩ := hsuffix
  rw [dagIdFromPath, ← hbase, stem_yaml] at h
  split at h
  · exact absurd h.symm hid
  · rw [← hbase, h]

/-- Two files with one `dag_id` have one name, or the names `.yaml` and `.yaml.yaml`. -/
theorem ConfigFile.name_of_dagId_eq {file other : ConfigFile}
    (hfile : (".yaml" : Text) <:+ file.name) (hother : (".yaml" : Text) <:+ other.name)
    (h : dagIdFromPath file = dagIdFromPath other) :
    file.name = other.name ∨ (file.name = ".yaml" ∧ other.name = ".yaml.yaml") ∨
      (file.name = ".yaml.yaml" ∧ other.name = ".yaml") := by
  obtain ⟨base, hbase⟩ := hfile
  obtain ⟨base', hbase'⟩ := hother
  rw [dagIdFromPath, dagIdFromPath, ← hbase, ← hbase', stem_yaml, stem_yaml] at h
  rw [← hbase, ← hbase']
  split at h <;> split at h
  · rename_i h₁ h₂
    exact .inl (by rw [h₁, h₂])
  · rename_i h₁ _
    subst h₁ h
    exact .inr (.inl ⟨rfl, rfl⟩)
  · rename_i _ h₂
    subst h₂ h
    exact .inr (.inr ⟨rfl, rfl⟩)
  · exact .inl (by rw [h])

/-! ### Which files disturb the others -/

/-- `_make_dag` succeeds on a file on its own. -/
def Valid (lib : Libraries) (file : ConfigFile) : Prop :=
  ∃ dag, makeDag lib .fresh file = .ok dag

/-- No valid file has a stem whose name is still needed after it. -/
structure LeavesNames (lib : Libraries) (files : List ConfigFile) : Prop where
  /-- The rest of its own round needs these names, or binds them. -/
  round : ∀ file ∈ files, Valid lib file →
    dagIdFromPath file ∉ (["log", "_config_file", "_status"] : List Text)
  /-- A later file needs these names to be registered, or binds them. -/
  later : ∀ file ∈ files, ∀ other ∈ files, Valid lib file → Valid lib other →
    file.name < other.name →
    dagIdFromPath file ∉ (["_make_dag", "globals", "_dag"] : List Text) ++ lib.makeDagNames
  /-- The handler needs these names, or deletes them, when a later file is invalid. -/
  failure : ∀ file ∈ files, ∀ other ∈ files, Valid lib file → ¬ Valid lib other →
    file.name < other.name → dagIdFromPath file ≠ "Exception" ∧ dagIdFromPath file ≠ "exc"
  /-- The handler also runs when `_recently_changed` is a DAG. -/
  changed : ∀ file ∈ files, ∀ other ∈ files, Valid lib file → Valid lib other →
    dagIdFromPath other = "_recently_changed" →
    dagIdFromPath file ≠ "Exception" ∧ dagIdFromPath file ≠ "exc"
  /-- Only these two names have one stem. -/
  stems : ∀ file ∈ files, ∀ other ∈ files, Valid lib file → Valid lib other →
    file.name = ".yaml" → other.name ≠ ".yaml.yaml"

/-- Fewer files leave their names, too. -/
theorem LeavesNames.singleton {lib : Libraries} {files : List ConfigFile}
    (h : LeavesNames lib files) {file : ConfigFile} (hfile : file ∈ files) :
    LeavesNames lib [file] := by
  have hmem : ∀ other ∈ [file], other ∈ files := fun other hother =>
    List.mem_singleton.mp hother ▸ hfile
  exact ⟨fun f hf => h.round f (hmem f hf), fun f hf g hg => h.later f (hmem f hf) g (hmem g hg),
    fun f hf g hg => h.failure f (hmem f hf) g (hmem g hg),
    fun f hf g hg => h.changed f (hmem f hf) g (hmem g hg),
    fun f hf g hg => h.stems f (hmem f hf) g (hmem g hg)⟩

/-! ### Forwards: every round finds its names -/

/-- What the rounds so far have done: the valid files are registered, and a DAG is bound only to
`_dag` and to their stems. -/
structure Registry (lib : Libraries) (done : List ConfigFile) (ns : LoopNamespace) : Prop where
  /-- The valid files are registered. -/
  bound : ∀ file ∈ done, ∀ dag, makeDag lib .fresh file = .ok dag →
    ns (dagIdFromPath file) = some (.dag dag)
  /-- A DAG is bound to `_dag` or comes from a file with that stem. -/
  origin : ∀ name dag, ns name = some (.dag dag) →
    name = "_dag" ∨ ∃ file ∈ done, Valid lib file ∧ dagIdFromPath file = name

section Registry

variable {lib : Libraries} {recent : List Text} {done rest files : List ConfigFile}
  {file : ConfigFile} {ns : LoopNamespace} {dag : DagObject} {name : Text}

/-- Before the loop nothing is registered. -/
theorem registry_fresh : Registry lib [] .fresh where
  bound file hfile := absurd hfile List.not_mem_nil
  origin _ _ h := by cases h

/-- A name that is no stem of a valid file is not bound to a DAG. -/
theorem Registry.clear (h : Registry lib done ns) (hname : name ≠ "_dag")
    (hdone : ∀ file ∈ done, Valid lib file → dagIdFromPath file ≠ name) : ns.Clear name := by
  intro dag hdag
  rcases h.origin name dag hdag with heq | ⟨file, hfile, hvalid, heq⟩
  · exact hname heq
  · exact hdone file hfile hvalid heq

/-- Another object takes a name that is no stem of a valid file. -/
theorem Registry.update (h : Registry lib done ns) {object : Option LoopObject}
    (hobject : ∀ dag, object ≠ some (.dag dag))
    (hdone : ∀ file ∈ done, Valid lib file → dagIdFromPath file ≠ name) :
    Registry lib done (Function.update ns name object) where
  bound file hfile dag hdag := by
    rw [Function.update_of_ne (hdone file hfile ⟨dag, hdag⟩)]
    exact h.bound file hfile dag hdag
  origin other dag hother := by
    by_cases heq : other = name
    · rw [heq, Function.update_self] at hother
      exact absurd hother (hobject dag)
    · rw [Function.update_of_ne heq] at hother
      exact h.origin other dag hother

/-- A valid file is registered under a stem of its own. -/
theorem Registry.store (h : Registry lib done ns) (hdag : makeDag lib .fresh file = .ok dag)
    (hdone : ∀ other ∈ done, Valid lib other →
      dagIdFromPath other ≠ "_dag" ∧ dagIdFromPath other ≠ dagIdFromPath file) :
    Registry lib (done ++ [file]) (ns.store dag) := by
  obtain ⟨hid, -⟩ := ids_of_makeDag hdag
  rw [LoopNamespace.store, hid]
  constructor
  · intro other hother dag' hdag'
    rcases List.mem_append.mp hother with hother | hother
    · obtain ⟨hkeep, hstore⟩ := hdone other hother ⟨dag', hdag'⟩
      rw [Function.update_of_ne hstore, keep, Function.update_of_ne hkeep]
      exact h.bound other hother dag' hdag'
    · obtain rfl := List.mem_singleton.mp hother
      obtain rfl := Except.ok.inj (hdag.symm.trans hdag')
      exact Function.update_self ..
  · intro other dag' hother
    by_cases hstore : other = dagIdFromPath file
    · exact .inr ⟨file, by simp, ⟨dag, hdag⟩, hstore.symm⟩
    rw [Function.update_of_ne hstore] at hother
    by_cases hkeep : other = "_dag"
    · exact .inl hkeep
    rw [keep, Function.update_of_ne hkeep] at hother
    rcases h.origin other dag' hother with heq | ⟨made, hmade, hvalid, heq⟩
    · exact .inl heq
    · exact .inr ⟨made, List.mem_append_left _ hmade, hvalid, heq⟩

/-- An invalid file is not registered. -/
theorem Registry.skip (h : Registry lib done ns) (hfile : ¬ Valid lib file) :
    Registry lib (done ++ [file]) ns where
  bound other hother dag hdag := by
    rcases List.mem_append.mp hother with hother | hother
    · exact h.bound other hother dag hdag
    · obtain rfl := List.mem_singleton.mp hother
      exact absurd ⟨dag, hdag⟩ hfile
  origin name dag hdag := by
    rcases h.origin name dag hdag with heq | ⟨other, hother, hvalid, heq⟩
    · exact .inl heq
    · exact .inr ⟨other, List.mem_append_left _ hother, hvalid, heq⟩

end Registry

section Forwards

variable {lib : Libraries} {recent : List Text} {done rest files : List ConfigFile}
  {file : ConfigFile} {ns : LoopNamespace} {dag : DagObject} {name : Text}

/-- The files before a file are files with smaller names. -/
theorem AreConfigFiles.lt_of_done (hfiles : AreConfigFiles files)
    (heq : files = done ++ file :: rest) {other : ConfigFile} (hother : other ∈ done) :
    other ∈ files ∧ other.name < file.name := by
  subst heq
  exact ⟨List.mem_append_left _ hother,
    (List.pairwise_append.mp hfiles.sorted).2.2 other hother file List.mem_cons_self⟩

/-- Valid files that leave their names have different stems. -/
theorem LeavesNames.dagId_ne (hL : LeavesNames lib files) (hfiles : AreConfigFiles files)
    {other : ConfigFile} (hother : other ∈ files) (hfile : file ∈ files)
    (hvalid' : Valid lib other) (hvalid : Valid lib file) (hne : other.name ≠ file.name) :
    dagIdFromPath other ≠ dagIdFromPath file := by
  intro heq
  rcases ConfigFile.name_of_dagId_eq (hfiles.suffix other hother) (hfiles.suffix file hfile) heq
    with hname | ⟨hname, hname'⟩ | ⟨hname, hname'⟩
  · exact hne hname
  · exact hL.stems other hother file hfile hvalid' hvalid hname hname'
  · exact hL.stems file hfile other hother hvalid hvalid' hname' hname

/-- The loop variable takes no name of a valid file. -/
theorem Registry.enter (h : Registry lib done ns) (hL : LeavesNames lib files)
    (hdone : ∀ other ∈ done, other ∈ files) : Registry lib done (ns.enter file) := by
  refine h.update (fun _ hobject => by cases hobject) fun other hother hvalid hid => ?_
  exact hL.round other (hdone other hother) hvalid (by simp [hid])

/-- The loop does not bind the names of `_make_dag`. -/
theorem Libraries.ne_of_mem :
    ∀ name ∈ lib.makeDagNames, name ≠ "_dag" ∧ name ≠ "_config_file" := by
  unfold makeDagNames
  split <;> decide

/-- A valid file is made where the valid files before it leave their names. -/
theorem Registry.made (h : Registry lib done ns) (hdag : makeDag lib .fresh file = .ok dag)
    (hlater : ∀ other ∈ done, Valid lib other → dagIdFromPath other ∉
      (["_make_dag", "globals", "_dag"] : List Text) ++ lib.makeDagNames) :
    Made lib ns file dag where
  call := h.clear (by decide) fun other hother hvalid hid =>
    hlater other hother hvalid (by simp [hid])
  names name hname := h.clear (Libraries.ne_of_mem name hname).1 fun other hother hvalid hid =>
    hlater other hother hvalid (List.mem_append_right _ (hid ▸ hname))
  make := hdag

/-- The round of a valid file registers it. -/
theorem Registry.round_of_valid (h : Registry lib done ns) (hL : LeavesNames lib files)
    (hfiles : AreConfigFiles files) (heq : files = done ++ file :: rest)
    (hdag : makeDag lib .fresh file = .ok dag) :
    ∃ t, Round lib recent file ns t ∧ Registry lib (done ++ [file]) t := by
  have hfile : file ∈ files := by simp [heq]
  have hbefore {other : ConfigFile} (hother : other ∈ done) := hfiles.lt_of_done heq hother
  have hmem : ∀ other ∈ done ++ [file], other ∈ files := fun other hother =>
    (List.mem_append.mp hother).elim (fun hother => (hbefore hother).1) fun hother =>
      List.mem_singleton.mp hother ▸ hfile
  have hlater : ∀ other ∈ done, Valid lib other → dagIdFromPath other ∉
      (["_make_dag", "globals", "_dag"] : List Text) ++ lib.makeDagNames :=
    fun other hother hvalid => hL.later other (hbefore hother).1 file hfile hvalid ⟨dag, hdag⟩
      (hbefore hother).2
  have hglobals : ns.Clear "globals" := h.clear (by decide) fun other hother hvalid hid =>
    hlater other hother hvalid (by simp [hid])
  have hstored : Registry lib (done ++ [file]) (ns.store dag) := by
    refine h.store hdag fun other hother hvalid => ⟨fun hid => ?_, ?_⟩
    · exact hlater other hother hvalid (by simp [hid])
    · exact hL.dagId_ne hfiles (hbefore hother).1 hfile hvalid ⟨dag, hdag⟩
        (ne_of_lt (hbefore hother).2)
  have hround : ∀ name ∈ (["log", "_config_file", "_status"] : List Text),
      ∀ other ∈ done ++ [file], Valid lib other → dagIdFromPath other ≠ name :=
    fun name hname other hother hvalid hid =>
      hL.round other (hmem other hother) hvalid (hid ▸ hname)
  have hid : dag.arguments.dagId ≠ "_config_file" := by
    rw [(ids_of_makeDag hdag).1]
    exact hround _ (by simp) file (by simp) ⟨dag, hdag⟩
  have hlog : (ns.store dag).Clear "log" := hstored.clear (by decide) (hround _ (by simp))
  have hmade := h.made hdag hlater
  by_cases hrecent : (ns.store dag).Clear "_recently_changed"
  · refine ⟨_, .registered hmade hglobals hid hrecent hlog, ?_⟩
    exact hstored.update (fun _ hobject => by cases hobject) (hround _ (by simp))
  · -- The handler runs, although the DAG has been stored.
    have hnot : ∀ other ∈ done ++ [file], Valid lib other →
        dagIdFromPath other ≠ "Exception" ∧ dagIdFromPath other ≠ "exc" := by
      intro other hother hvalid
      by_contra hcontra
      refine hrecent (hstored.clear (by decide) fun changed hchanged hvalid' hid' => hcontra ?_)
      exact hL.changed other (hmem other hother) changed (hmem changed hchanged) hvalid hvalid' hid'
    have hexception : (ns.store dag).Clear "Exception" :=
      hstored.clear (by decide) fun other hother hvalid => (hnot other hother hvalid).1
    refine ⟨_, .unmarked hmade hglobals hid hrecent ⟨hexception, hlog⟩, ?_⟩
    exact hstored.update (fun _ hobject => by cases hobject) fun other hother hvalid =>
      (hnot other hother hvalid).2

/-- The round of an invalid file changes nothing for the others. -/
theorem Registry.round_of_invalid (h : Registry lib done ns) (hL : LeavesNames lib files)
    (hfiles : AreConfigFiles files) (heq : files = done ++ file :: rest)
    (hinvalid : ¬ Valid lib file) :
    ∃ t, Round lib recent file ns t ∧ Registry lib (done ++ [file]) t := by
  have hfile : file ∈ files := by simp [heq]
  have hnot : ∀ other ∈ done, Valid lib other →
      dagIdFromPath other ≠ "Exception" ∧ dagIdFromPath other ≠ "exc" := fun other hother hvalid =>
    have ⟨hmem, hlt⟩ := hfiles.lt_of_done heq hother
    hL.failure other hmem file hfile hvalid hinvalid hlt
  refine ⟨_, .failed (fun dag hmade => hinvalid ⟨dag, hmade.make⟩) ⟨?_, ?_⟩, ?_⟩
  · exact h.clear (by decide) fun other hother hvalid => (hnot other hother hvalid).1
  · refine h.clear (by decide) fun other hother hvalid hlog => ?_
    exact hL.round other (hfiles.lt_of_done heq hother).1 hvalid (by simp [hlog])
  · refine Registry.skip (h.update (fun _ hobject => by cases hobject) ?_) hinvalid
    exact fun other hother hvalid => (hnot other hother hvalid).2

/-- **Forwards**: files that leave their names are registered. -/
theorem LeavesNames.registry (hL : LeavesNames lib files) (hfiles : AreConfigFiles files) :
    ∃ t, Completes (registerAll lib recent files) .fresh t ∧ Registry lib files t := by
  refine exists_completes_forM (fun done file rest ns heq h => ?_) registry_fresh
  have hmem : ∀ other ∈ done, other ∈ files := fun other hother => (hfiles.lt_of_done heq hother).1
  by_cases hvalid : Valid lib file
  · obtain ⟨dag, hdag⟩ := hvalid
    obtain ⟨t, ht, hnext⟩ := (h.enter hL hmem).round_of_valid hL hfiles heq hdag
    exact ⟨t, completes_register_iff.mpr ht, hnext⟩
  · obtain ⟨t, ht, hnext⟩ := (h.enter hL hmem).round_of_invalid hL hfiles heq hvalid
    exact ⟨t, completes_register_iff.mpr ht, hnext⟩

end Forwards

/-! ### Backwards: a DAG at the end has been there since its round -/

section Backwards

variable {lib : Libraries} {recent : List Text} {files : List ConfigFile}
  {file other : ConfigFile} {ns t last : LoopNamespace} {dag dag' : DagObject} {name : Text}

/-- Two files make different DAGs. -/
theorem AreConfigFiles.eq_of_makeDag (hfiles : AreConfigFiles files) (hfile : file ∈ files)
    (hother : other ∈ files) (h : makeDag lib .fresh file = .ok dag)
    (h' : makeDag lib .fresh other = .ok dag) : file = other :=
  hfiles.eq_of_name hfile hother (ConfigFile.path_inj.mp
    ((ids_of_makeDag h).2.symm.trans (ids_of_makeDag h').2))

/-- Another object than a DAG hides the DAG that was there. -/
theorem dag_of_update {object : Option LoopObject} (hobject : ∀ dag, object ≠ some (.dag dag))
    {other : Text} (h : Function.update ns other object name = some (.dag dag)) :
    name ≠ other ∧ ns name = some (.dag dag) := by
  by_cases heq : name = other
  · rw [heq, Function.update_self] at h
    exact absurd h (hobject dag)
  · rw [Function.update_of_ne heq] at h
    exact ⟨heq, h⟩

/-- A DAG that is bound after `_dag` is bound was there before, or is the value of `_dag`. -/
theorem dag_of_keep (h : ns.keep dag name = some (.dag dag')) :
    ns name = some (.dag dag') ∨ dag' = dag ∧ name = "_dag" := by
  rw [keep, Function.update_apply] at h
  split at h
  · rename_i hname
    cases h
    exact .inr ⟨rfl, hname⟩
  · exact .inl h

/-- A DAG that is bound after a DAG is stored was there before, or is the one that was stored. -/
theorem dag_of_store (h : ns.store dag name = some (.dag dag')) :
    ns name = some (.dag dag') ∨ dag' = dag := by
  rw [LoopNamespace.store, Function.update_apply] at h
  split at h
  · cases h
    exact .inr rfl
  · exact (dag_of_keep h).imp_right And.left

/-- A DAG that is bound after a round was there before, or the round made it. -/
theorem dag_of_round (h : Round lib recent file (ns.enter file) t) (ht : t name = some (.dag dag)) :
    ns name = some (.dag dag) ∨ makeDag lib .fresh file = .ok dag := by
  have hnone : ∀ dag, (none : Option LoopObject) ≠ some (.dag dag) := fun _ h => by cases h
  have henter : ns.enter file name = some (.dag dag) → ns name = some (.dag dag) := fun h =>
    (dag_of_update (fun _ h => by cases h) h).2
  cases h with
  | failed hmade hhandles => exact .inl (henter (dag_of_update hnone ht).2)
  | unstored hmade hglobals hhandles =>
    rcases dag_of_keep (dag_of_update hnone ht).2 with h | ⟨rfl, -⟩
    · exact .inl (henter h)
    · exact .inr hmade.make
  | unmarked hmade hglobals hid hrecent hhandles =>
    rcases dag_of_store (dag_of_update hnone ht).2 with h | rfl
    · exact .inl (henter h)
    · exact .inr hmade.make
  | registered hmade hglobals hid hrecent hlog =>
    rcases dag_of_store (dag_of_update (fun _ h => by cases h) ht).2 with h | rfl
    · exact .inl (henter h)
    · exact .inr hmade.make

/-- A DAG that is bound after some rounds was there before, or one of them made it. -/
theorem dag_of_registerAll (h : Completes (registerAll lib recent files) ns t)
    (ht : t name = some (.dag dag)) :
    ns name = some (.dag dag) ∨ ∃ file ∈ files, makeDag lib .fresh file = .ok dag := by
  have hround {file : ConfigFile} {ns t : LoopNamespace}
      (h : Completes (register lib recent file) ns t) (ht : t name = some (.dag dag)) :
      ns name = some (.dag dag) ∨ makeDag lib .fresh file = .ok dag :=
    dag_of_round (completes_register_iff.mp h) ht
  exact Completes.forM_origin (fun ns => ns name = some (.dag dag))
    (fun file => makeDag lib .fresh file = .ok dag) hround h ht

/-- The round of a file in a loop that completes: where it starts and ends, and which DAGs that
are bound at the end are bound there. -/
structure RoundOf (lib : Libraries) (recent : List Text) (files : List ConfigFile)
    (file : ConfigFile) (last ns t : LoopNamespace) : Prop where
  /-- What the round does. -/
  round : Round lib recent file (ns.enter file) t
  /-- Its own DAG is not there before. -/
  new : ∀ dag, makeDag lib .fresh file = .ok dag → ∀ name, ns name ≠ some (.dag dag)
  /-- The DAGs of earlier files are there before. -/
  before : ∀ other ∈ files, other.name < file.name → ∀ dag, makeDag lib .fresh other = .ok dag →
    ∀ name, last name = some (.dag dag) → ns name = some (.dag dag)
  /-- The DAGs of earlier files and its own are there after it. -/
  after : ∀ other ∈ files, other.name ≤ file.name → ∀ dag, makeDag lib .fresh other = .ok dag →
    ∀ name, last name = some (.dag dag) → t name = some (.dag dag)

/-- **Backwards**: in a loop that completes every file has its round. -/
theorem AreConfigFiles.exists_round (hfiles : AreConfigFiles files)
    (hlast : Completes (registerAll lib recent files) .fresh last) (hfile : file ∈ files) :
    ∃ ns t, RoundOf lib recent files file last ns t := by
  obtain ⟨pre, post, rfl⟩ := List.append_of_mem hfile
  obtain ⟨ns, hpre, hrest⟩ := completes_forM_append_iff.mp hlast
  obtain ⟨t, hround, hpost⟩ := completes_forM_cons_iff.mp hrest
  obtain ⟨-, hsorted, hlt⟩ := List.pairwise_append.mp hfiles.sorted
  have hgt := (List.pairwise_cons.mp hsorted).1
  have hmade {other made : ConfigFile} {dag : DagObject} (hother : other ∈ pre ++ file :: post)
      (hmem : made ∈ pre ++ file :: post) (hdag : makeDag lib .fresh other = .ok dag)
      (hdag' : makeDag lib .fresh made = .ok dag) : made.name = other.name :=
    congrArg ConfigFile.name (hfiles.eq_of_makeDag hmem hother hdag' hdag)
  refine ⟨ns, t, completes_register_iff.mp hround, fun dag hdag name hname => ?_,
    fun other hother hname dag hdag name hbound => ?_,
    fun other hother hname dag hdag name hbound => ?_⟩
  · obtain h | ⟨made, hmem, hdag'⟩ := dag_of_registerAll hpre hname
    · cases h
    · have heq := hmade hfile (List.mem_append_left _ hmem) hdag hdag'
      exact absurd heq (ne_of_lt (hlt made hmem file List.mem_cons_self))
  · refine (dag_of_registerAll hrest hbound).resolve_right ?_
    rintro ⟨made, hmem, hdag'⟩
    have heq := hmade hother (List.mem_append_right _ hmem) hdag hdag'
    rcases List.mem_cons.mp hmem with rfl | hmem
    · exact absurd heq.symm (ne_of_lt hname)
    · exact absurd (heq ▸ hgt made hmem) hname.asymm
  · refine (dag_of_registerAll hpost hbound).resolve_right ?_
    rintro ⟨made, hmem, hdag'⟩
    have heq := hmade hother (by simp [hmem]) hdag hdag'
    exact absurd (heq ▸ hgt made hmem) (not_lt_of_ge hname)

end Backwards

/-! ### Which names a registered file leaves -/

/-- A stored DAG is also bound to `_dag`. -/
theorem store_dag {ns : LoopNamespace} {dag : DagObject} :
    ns.store dag "_dag" = some (.dag dag) := by
  rw [LoopNamespace.store, keep, Function.update_apply, Function.update_self, ite_self]

/-- All valid files of a loop that completes are registered at its end. -/
structure AllRegistered (lib : Libraries) (recent : List Text) (files : List ConfigFile)
    (last : LoopNamespace) : Prop where
  /-- The loop completes. -/
  completes : Completes (registerAll lib recent files) .fresh last
  /-- The valid files are registered. -/
  bound : ∀ file ∈ files, ∀ dag, makeDag lib .fresh file = .ok dag →
    last (dagIdFromPath file) = some (.dag dag)

section AllRegistered

variable {lib : Libraries} {recent : List Text} {files : List ConfigFile}
  {file other : ConfigFile} {ns t last : LoopNamespace} {dag dag' : DagObject} {name : Text}

/-- A file whose DAG is bound at the end of its round has made it, stored it unless its stem is
`_dag`, and bound it to `_dag`. -/
theorem RoundOf.made (h : RoundOf lib recent files file last ns t)
    (hdag : makeDag lib .fresh file = .ok dag) (ht : t name = some (.dag dag)) :
    Made lib (ns.enter file) file dag ∧ ((ns.enter file).Clear "globals" ∨ name = "_dag") ∧
      t "_dag" = some (.dag dag) := by
  have hnone : ∀ dag, (none : Option LoopObject) ≠ some (.dag dag) := fun _ h => by cases h
  have hnew : ns.enter file name ≠ some (.dag dag) := fun henter =>
    h.new dag hdag name (dag_of_update (fun _ h => by cases h) henter).2
  have heq {dag'' : DagObject} (hmade : Made lib (ns.enter file) file dag'') : dag'' = dag :=
    Except.ok.inj (hmade.make.symm.trans hdag)
  cases h.round with
  | failed hmade hhandles => exact absurd (dag_of_update hnone ht).2 hnew
  | unstored hmade hglobals hhandles =>
    obtain rfl := heq hmade
    obtain ⟨-, hname⟩ := (dag_of_keep (dag_of_update hnone ht).2).resolve_left hnew
    refine ⟨hmade, .inr hname, ?_⟩
    rw [Function.update_of_ne (by decide), keep, Function.update_self]
  | unmarked hmade hglobals hid hrecent hhandles =>
    obtain rfl := heq hmade
    exact ⟨hmade, .inl hglobals, (Function.update_of_ne (by decide) ..).trans store_dag⟩
  | registered hmade hglobals hid hrecent hlog =>
    obtain rfl := heq hmade
    exact ⟨hmade, .inl hglobals, (Function.update_of_ne (by decide) ..).trans store_dag⟩

/-- A registered file leaves the names that the registration of a later file needs. -/
theorem AllRegistered.later (h : AllRegistered lib recent files last)
    (hfiles : AreConfigFiles files) (hfile : file ∈ files) (hother : other ∈ files)
    (hdag : makeDag lib .fresh file = .ok dag) (hdag' : makeDag lib .fresh other = .ok dag')
    (hlt : file.name < other.name) :
    dagIdFromPath file ∉ (["_make_dag", "globals", "_dag"] : List Text) ++ lib.makeDagNames := by
  obtain ⟨ns, t, hround⟩ := hfiles.exists_round h.completes hother
  have hlast := h.bound file hfile dag hdag
  have hbefore := hround.before file hfile hlt dag hdag _ hlast
  have hbound := hround.after other hother le_rfl dag' hdag' _ (h.bound other hother dag' hdag')
  obtain ⟨hmade, hglobals, hself⟩ := hround.made hdag' hbound
  have htaken {name : Text} (hid : dagIdFromPath file = name) (hname : name ≠ "_config_file")
      (hclear : (ns.enter other).Clear name) : False := by
    refine hclear dag ?_
    rw [enter, Function.update_of_ne hname, ← hid, hbefore]
  intro hmem
  rcases List.mem_append.mp hmem with hmem | hmem
  · simp only [List.mem_cons, List.not_mem_nil, or_false] at hmem
    rcases hmem with hid | hid | hid
    · exact htaken hid (by decide) hmade.call
    · have hid' := hglobals.resolve_left (htaken hid (by decide))
      rw [ConfigFile.name_eq (hfiles.suffix file hfile) hid (by decide),
        ConfigFile.name_eq (hfiles.suffix other hother) hid' (by decide)] at hlt
      revert hlt
      decide
    · have hafter := hround.after file hfile hlt.le dag hdag _ hlast
      rw [hid, hself] at hafter
      cases hafter
      obtain rfl := hfiles.eq_of_makeDag hfile hother hdag hdag'
      exact lt_irrefl _ hlt
  · exact htaken rfl (Libraries.ne_of_mem _ hmem).2 (hmade.names _ hmem)

/-- A registered file leaves the names that the handler needs for a later invalid file. -/
theorem AllRegistered.failure (h : AllRegistered lib recent files last)
    (hfiles : AreConfigFiles files) (hfile : file ∈ files) (hother : other ∈ files)
    (hdag : makeDag lib .fresh file = .ok dag) (hinvalid : ¬ Valid lib other)
    (hlt : file.name < other.name) :
    dagIdFromPath file ≠ "Exception" ∧ dagIdFromPath file ≠ "exc" := by
  obtain ⟨ns, t, hround⟩ := hfiles.exists_round h.completes hother
  have hlast := h.bound file hfile dag hdag
  have hbefore := hround.before file hfile hlt dag hdag _ hlast
  have hafter := hround.after file hfile hlt.le dag hdag _ hlast
  have hnot (dag : DagObject) : ¬ Made lib (ns.enter other) other dag := fun hmade =>
    hinvalid ⟨dag, hmade.make⟩
  cases hround.round with
  | failed hmade hhandles =>
    refine ⟨fun hid => hhandles.exception dag ?_, fun hid => ?_⟩
    · rw [enter, Function.update_of_ne (by decide), ← hid, hbefore]
    · rw [hid, Function.update_self] at hafter
      cases hafter
  | unstored hmade => exact absurd hmade (hnot _)
  | unmarked hmade => exact absurd hmade (hnot _)
  | registered hmade => exact absurd hmade (hnot _)

/-- A registered file leaves `Exception` when `_recently_changed` is registered after it. -/
theorem AllRegistered.ne_exception (h : AllRegistered lib recent files last)
    (hfiles : AreConfigFiles files) (hfile : file ∈ files) (hother : other ∈ files)
    (hdag : makeDag lib .fresh file = .ok dag) (hdag' : makeDag lib .fresh other = .ok dag')
    (hchanged : dagIdFromPath other = "_recently_changed") :
    dagIdFromPath file ≠ "Exception" := by
  intro hid
  have hlt : file.name < other.name := by
    rw [ConfigFile.name_eq (hfiles.suffix file hfile) hid (by decide),
      ConfigFile.name_eq (hfiles.suffix other hother) hchanged (by decide)]
    decide
  obtain ⟨ns, t, hround⟩ := hfiles.exists_round h.completes hother
  have hbefore := hround.before file hfile hlt dag hdag _ (h.bound file hfile dag hdag)
  have hself := hround.after other hother le_rfl dag' hdag' _ (h.bound other hother dag' hdag')
  obtain ⟨hmade', hglobals', -⟩ := hround.made hdag' hself
  have hstem {dag : DagObject} (hmade : Made lib (ns.enter other) other dag) :
      dag.arguments.dagId = "_recently_changed" :=
    (ids_of_makeDag hmade.make).1.trans hchanged
  cases hround.round with
  | failed hmade => exact hmade _ hmade'
  | unstored hmade hglobals =>
    have hdagName := hglobals'.resolve_left hglobals
    rw [hchanged] at hdagName
    exact absurd hdagName (by decide)
  | unmarked hmade hglobals hid' hrecent hhandles =>
    refine hhandles.exception dag ?_
    rw [LoopNamespace.store, hstem hmade, Function.update_of_ne (by decide), keep,
      Function.update_of_ne (by decide), enter, Function.update_of_ne (by decide), ← hid, hbefore]
  | registered hmade hglobals hid' hrecent =>
    exact hrecent _ (hstem hmade ▸ store_dagId)

/-- A registered file is not deleted as `exc` when `_recently_changed` was registered. -/
theorem AllRegistered.ne_exc (h : AllRegistered lib recent files last)
    (hfiles : AreConfigFiles files) (hfile : file ∈ files) (hother : other ∈ files)
    (hdag : makeDag lib .fresh file = .ok dag) (hdag' : makeDag lib .fresh other = .ok dag')
    (hchanged : dagIdFromPath other = "_recently_changed") : dagIdFromPath file ≠ "exc" := by
  intro hid
  have hlt : other.name < file.name := by
    rw [ConfigFile.name_eq (hfiles.suffix file hfile) hid (by decide),
      ConfigFile.name_eq (hfiles.suffix other hother) hchanged (by decide)]
    decide
  obtain ⟨ns, t, hround⟩ := hfiles.exists_round h.completes hfile
  have hbefore := hround.before other hother hlt dag' hdag' _ (h.bound other hother dag' hdag')
  have hself := hround.after file hfile le_rfl dag hdag _ (h.bound file hfile dag hdag)
  rw [hid] at hself
  rw [hchanged] at hbefore
  have hdeleted {ns : LoopNamespace}
      (hself : Function.update ns "exc" none "exc" = some (.dag dag)) : False := by
    rw [Function.update_self] at hself
    cases hself
  cases hround.round with
  | failed => exact hdeleted hself
  | unstored => exact hdeleted hself
  | unmarked => exact hdeleted hself
  | registered hmade hglobals hid' hrecent =>
    refine hrecent dag' ?_
    rw [LoopNamespace.store, (ids_of_makeDag hmade.make).1, hid, Function.update_of_ne (by decide),
      keep, Function.update_of_ne (by decide), enter, Function.update_of_ne (by decide), hbefore]

end AllRegistered

/-! ### The result -/

section Isolated

variable {lib : Libraries} {recent : List Text} {files : List ConfigFile} {file : ConfigFile}
  {dag : DagObject}

/-- After the loop a DAG is bound to the stem of a file. -/
def Registered (lib : Libraries) (recent : List Text) (files : List ConfigFile) (file : ConfigFile)
    (dag : DagObject) : Prop :=
  ∃ last, Completes (registerAll lib recent files) .fresh last ∧
    last (dagIdFromPath file) = some (.dag dag)

/-- A file registered on its own leaves the names of its own round. -/
theorem Registered.alone (h : Registered lib recent [file] file dag) :
    dagIdFromPath file ∉ (["log", "_config_file", "_status"] : List Text) := by
  obtain ⟨last, hlast, hbound⟩ := h
  obtain ⟨t, hround, hnil⟩ := completes_forM_cons_iff.mp hlast
  obtain rfl := completes_forM_nil.mp hnil
  have hclear {name : Text} (hname : name ≠ "_config_file") :
      (LoopNamespace.fresh.enter file).Clear name :=
    (clear_update_of_ne hname).mpr (clear_fresh name)
  intro hmem
  simp only [List.mem_cons, List.not_mem_nil, or_false] at hmem
  cases completes_register_iff.mp hround with
  | failed hmade hhandles =>
    obtain ⟨-, henter⟩ := dag_of_update (fun _ h => by cases h) hbound
    obtain ⟨-, hfresh⟩ := dag_of_update (fun _ h => by cases h) henter
    cases hfresh
  | unstored hmade hglobals => exact hglobals (hclear (by decide))
  | unmarked hmade hglobals hid hrecent hhandles =>
    refine hrecent ((clear_update_of_ne ?_).mpr
      ((clear_update_of_ne (by decide)).mpr (hclear (by decide))))
    rw [(ids_of_makeDag hmade.make).1]
    rcases hmem with hname | hname | hname <;> rw [hname] <;> decide
  | registered hmade hglobals hid hrecent hlog =>
    have hstem := (ids_of_makeDag hmade.make).1
    rcases hmem with hname | hname | hname
    · exact hlog _ ((hstem.trans hname) ▸ store_dagId)
    · exact hid (hstem.trans hname)
    · rw [hname, mark, Function.update_self] at hbound
      cases hbound

/-- The configurations of a directory do not stop each other: every valid file is registered
under its stem with its own DAG, no two files have one `dag_id`, and a file is registered exactly
when it is registered on its own. -/
structure Isolated (lib : Libraries) (recent : List Text) (files : List ConfigFile) : Prop where
  /-- Every valid file is registered. -/
  registered : ∀ file ∈ files, ∀ dag, makeDag lib .fresh file = .ok dag →
    Registered lib recent files file dag
  /-- Different files have different `dag_id`s. -/
  dagIds : ∀ file ∈ files, ∀ other ∈ files, ∀ dag dag', makeDag lib .fresh file = .ok dag →
    makeDag lib .fresh other = .ok dag' → file ≠ other → dag.arguments.dagId ≠ dag'.arguments.dagId
  /-- The other files do not matter. -/
  alone : ∀ file ∈ files,
    (∃ dag, dag.init.configPath = file.path ∧ Registered lib recent files file dag) ↔
      ∃ dag, dag.init.configPath = file.path ∧ Registered lib recent [file] file dag

/-- A file that is registered is valid. -/
theorem valid_of_registered (hfiles : AreConfigFiles files) (hfile : file ∈ files)
    (hpath : dag.init.configPath = file.path) (h : Registered lib recent files file dag) :
    Valid lib file := by
  obtain ⟨last, hlast, hbound⟩ := h
  obtain hfresh | ⟨made, hmem, hdag⟩ := dag_of_registerAll hlast hbound
  · cases hfresh
  · have hname := ConfigFile.path_inj.mp ((ids_of_makeDag hdag).2.symm.trans hpath)
    obtain rfl := hfiles.eq_of_name hmem hfile hname
    exact ⟨dag, hdag⟩

/-- Valid files that leave their names are registered. -/
theorem LeavesNames.registered (hL : LeavesNames lib files) (hfiles : AreConfigFiles files)
    (hfile : file ∈ files) (hdag : makeDag lib .fresh file = .ok dag) :
    Registered lib recent files file dag := by
  obtain ⟨last, hlast, hregistry⟩ := hL.registry hfiles
  exact ⟨last, hlast, hregistry.bound file hfile dag hdag⟩

/-- Files that leave their names do not stop each other. -/
theorem LeavesNames.isolated (hL : LeavesNames lib files) (hfiles : AreConfigFiles files) :
    Isolated lib recent files where
  registered file hfile dag hdag := hL.registered hfiles hfile hdag
  dagIds file hfile other hother dag dag' hdag hdag' hne := by
    rw [(ids_of_makeDag hdag).1, (ids_of_makeDag hdag').1]
    exact hL.dagId_ne hfiles hfile hother ⟨dag, hdag⟩ ⟨dag', hdag'⟩ fun hname =>
      hne (hfiles.eq_of_name hfile hother hname)
  alone file hfile := by
    constructor
    · rintro ⟨dag, hpath, h⟩
      obtain ⟨dag, hdag⟩ := valid_of_registered hfiles hfile hpath h
      exact ⟨dag, (ids_of_makeDag hdag).2, (hL.singleton hfile).registered
        (hfiles.singleton hfile) (List.mem_singleton_self file) hdag⟩
    · rintro ⟨dag, hpath, h⟩
      obtain ⟨dag, hdag⟩ := valid_of_registered (hfiles.singleton hfile)
        (List.mem_singleton_self file) hpath h
      exact ⟨dag, (ids_of_makeDag hdag).2, hL.registered hfiles hfile hdag⟩

/-- All valid files of isolated files are registered by one loop. -/
theorem Isolated.allRegistered (h : Isolated lib recent files) (hfile : file ∈ files)
    (hvalid : Valid lib file) : ∃ last, AllRegistered lib recent files last := by
  obtain ⟨dag, hdag⟩ := hvalid
  obtain ⟨last, hlast, -⟩ := h.registered file hfile dag hdag
  refine ⟨last, hlast, fun other hother dag' hdag' => ?_⟩
  obtain ⟨last', hlast', hbound⟩ := h.registered other hother dag' hdag'
  exact (hlast.unique hlast').symm ▸ hbound

/-- Files that do not stop each other leave their names. -/
theorem Isolated.leavesNames (h : Isolated lib recent files) (hfiles : AreConfigFiles files) :
    LeavesNames lib files where
  round file hfile hvalid := by
    obtain ⟨dag, hdag⟩ := hvalid
    obtain ⟨dag', -, halone⟩ := (h.alone file hfile).mp
      ⟨dag, (ids_of_makeDag hdag).2, h.registered file hfile dag hdag⟩
    exact halone.alone
  later file hfile other hother hvalid hvalid' hlt := by
    obtain ⟨last, hlast⟩ := h.allRegistered hfile hvalid
    obtain ⟨dag, hdag⟩ := hvalid
    obtain ⟨dag', hdag'⟩ := hvalid'
    exact hlast.later hfiles hfile hother hdag hdag' hlt
  failure file hfile other hother hvalid hinvalid hlt := by
    obtain ⟨last, hlast⟩ := h.allRegistered hfile hvalid
    obtain ⟨dag, hdag⟩ := hvalid
    exact hlast.failure hfiles hfile hother hdag hinvalid hlt
  changed file hfile other hother hvalid hvalid' hchanged := by
    obtain ⟨last, hlast⟩ := h.allRegistered hfile hvalid
    obtain ⟨dag, hdag⟩ := hvalid
    obtain ⟨dag', hdag'⟩ := hvalid'
    exact ⟨hlast.ne_exception hfiles hfile hother hdag hdag' hchanged,
      hlast.ne_exc hfiles hfile hother hdag hdag' hchanged⟩
  stems file hfile other hother hvalid hvalid' hname hname' := by
    obtain ⟨dag, hdag⟩ := hvalid
    obtain ⟨dag', hdag'⟩ := hvalid'
    refine h.dagIds file hfile other hother dag dag' hdag hdag' (fun heq => ?_) ?_
    · rw [heq, hname'] at hname
      exact absurd hname (by decide)
    · rw [(ids_of_makeDag hdag).1, (ids_of_makeDag hdag').1, dagIdFromPath, dagIdFromPath, hname,
        hname']
      decide

/-- **One configuration does not stop another** exactly when the valid files of the directory
leave the names that are still needed. -/
theorem isolated_iff (lib : Libraries) (recent : List Text) (dir : ConfigDirectory) :
    Isolated lib recent dir.configFiles ↔ LeavesNames lib dir.configFiles :=
  ⟨fun h => h.leavesNames dir.areConfigFiles, fun h => h.isolated dir.areConfigFiles⟩

/-- Libraries that load the same configuration from every text. -/
def demoLibraries : Libraries where
  safeLoad _ := .ok (.dict [("metric_type", .str "kafka_queue"), ("metric", .dict [])])
  repr _ := []
  timedelta _ := .ok (.object "timedelta" "0:05:00")
  daysAgo _ := .object "DateTime" "2024-05-01T00:00:00+00:00"
  dag _ := .ok ()
  operator _ _ := .ok ()
  warns := true

/-- A directory with the configurations `orders.yaml` and `log.yaml`. -/
def logDirectory : ConfigDirectory where
  entries := [⟨"orders.yaml", .ok []⟩, ⟨"log.yaml", .ok []⟩]
  nodup := by decide

/-- `log.yaml` takes the name of the logger, so `orders.yaml` is not registered. -/
theorem not_isolated_log : ¬ Isolated demoLibraries [] logDirectory.configFiles := by
  intro h
  have horders : (⟨"orders.yaml", .ok []⟩ : ConfigFile) ∈ logDirectory.configFiles := by
    refine (List.mem_insertionSort _).mpr ?_
    exact List.mem_filter.mpr ⟨List.mem_cons_self, by decide⟩
  obtain ⟨last, ⟨hresult, -⟩, -⟩ := h.registered _ horders _ rfl
  have hraised :
      (registerAll demoLibraries [] logDirectory.configFiles .fresh).result.toBool = false := by
    decide +kernel
  rw [hresult] at hraised
  cases hraised

end Isolated

end BatchIngestion
