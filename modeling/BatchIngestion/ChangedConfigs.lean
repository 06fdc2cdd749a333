import BatchIngestion.Python.JsonAscii
import BatchIngestion.Python.Lines
import BatchIngestion.Python.PurePath
import BatchIngestion.Shadowing

/-!
# The changed configurations

Before the registration loop, `dag_factory` asks git for the files that the latest commit has
added or modified, and the loop logs the status of every file by it. Only the names of the files
are compared: a file of the same name in another directory of the repository counts as well.
-/

namespace BatchIngestion

open Python Library Procedure

/-! ### Asking git -/

/-- What `subprocess.run` raises. -/
inductive GitError
  /-- `CalledProcessError`, with its `stderr`. -/
  | calledProcess (stderr : Text)
  /-- Any other exception, such as a missing program. -/
  | other (error : PyExc)

/-- The output of a git command in a directory. -/
abbrev Git := List Text → Text → Except GitError Text

/-- `_run_git`. -/
def runGit (git : Git) (args : List Text) (cwd : Text) : Except GitError Text :=
  (git args cwd).map strip

/-- `_CONFIG_DIR`, as a text. -/
def configDir : Text := "/opt/airflow/app/config"

/-- `_git_root(_CONFIG_DIR)`, as a text. -/
def gitRoot (git : Git) : Except GitError Text :=
  (runGit git ["rev-parse", "--show-toplevel"] configDir).map fun root =>
    (PurePath.ofParts [root]).toText

/-- `_filter_configs`. -/
def filterConfigs (changedNames : List Text) (dir : ConfigDirectory) : List ConfigFile :=
  dir.configFiles.filter fun file => changedNames.contains file.name

/-- The names of the paths in an output. -/
def changedNames (raw : Text) : List Text :=
  ((splitlines raw).filter fun line => strip line ≠ []).map fun line =>
    (PurePath.ofParts [line]).name

/-- `except subprocess.CalledProcessError`, which returns an empty list. -/
def unlessCalledProcessError (files : Except GitError (List ConfigFile)) :
    Except PyExc (List ConfigFile) :=
  match files with
  | .ok files => .ok files
  | .error (.calledProcess _) => .ok []
  | .error (.other e) => .error e

/-- The arguments of `git diff` in `fetch_and_get_changed_configs`. -/
def diffArgs (remote : Text) : List Text :=
  ["diff", "--name-only", "--diff-filter=AM", ("HEAD.." : Text) ++ remote ++ ("/HEAD" : Text)]

/-- The arguments of `git show` in `get_changed_configs_in_latest_commit`. -/
def showArgs : List Text := ["show", "--name-only", "--diff-filter=AM", "--pretty=format:", "HEAD"]

/-- `fetch_and_get_changed_configs`. -/
def fetchAndGetChangedConfigs (git : Git) (dir : ConfigDirectory) (remote : Text) :
    Except PyExc (List ConfigFile) :=
  unlessCalledProcessError do
    let repo ← gitRoot git
    let _ ← runGit git ["fetch", remote] repo
    let raw ← runGit git (diffArgs remote) repo
    return filterConfigs (changedNames raw) dir

/-- `get_changed_configs_in_latest_commit`. -/
def getChangedConfigsInLatestCommit (git : Git) (dir : ConfigDirectory) :
    Except PyExc (List ConfigFile) :=
  unlessCalledProcessError do
    let repo ← gitRoot git
    let raw ← runGit git showArgs repo
    return filterConfigs (changedNames raw) dir

/-- `_recently_changed`. -/
def recentlyChanged (git : Git) (dir : ConfigDirectory) : List Text :=
  match getChangedConfigsInLatestCommit git dir with
  | .ok files => files.map ConfigFile.name
  | .error _ => []

/-! ### What git prints -/

/-- A path of the repository that git prints as it is: without the characters for which it would
put the path in quotes, and without a space at either end. -/
structure RepoPath where
  /-- The names of the directories and of the file. -/
  names : List Text
  /-- There is a file. -/
  nonempty : names ≠ []
  /-- The names are names. -/
  isName : ∀ name ∈ names, PurePath.IsName name
  /-- They can be printed. -/
  printable : ∀ name ∈ names, Printable name ∧ '"' ∉ name ∧ '\\' ∉ name
  /-- There is no space around the path. -/
  trimmed : strip (['/'].intercalate names) = ['/'].intercalate names

namespace RepoPath

/-- The path as it is printed. -/
def text (path : RepoPath) : Text := ['/'].intercalate path.names

/-- The name of the file. -/
def base (path : RepoPath) : Text := path.names.getLastD []

/-- The printed path is read back. -/
theorem name_text (path : RepoPath) : (PurePath.ofParts [path.text]).name = path.base := by
  have hwell : PurePath.WellFormed ⟨[], path.names⟩ := ⟨.inl rfl, path.isName⟩
  have htext : PurePath.toText ⟨[], path.names⟩ = path.text := by
    rw [PurePath.toText, if_neg fun h => path.nonempty h.2, List.nil_append, text]
  rw [← htext, hwell.ofParts_toText]
  rfl

/-- A printed path is a line. -/
theorem isLine_text (path : RepoPath) :
    path.text ≠ [] ∧ ∀ c ∈ path.text, isLineBreak c = false := by
  constructor
  · intro hnil
    have hnames := PurePath.namesOf_intercalate path.isName
    rw [← text, hnil] at hnames
    exact path.nonempty hnames.symm
  · intro c hc
    have hslash : Printable ['/'] := by simp
    have hprintable : Printable path.text :=
      printable_intercalate hslash fun name hname => (path.printable name hname).1
    obtain ⟨hlow, hhigh⟩ := hprintable c hc
    simp only [isLineBreak, Bool.or_eq_false_iff, Bool.and_eq_false_iff, decide_eq_false_iff_not,
      beq_eq_false_iff_ne]
    omega

end RepoPath

/-- An output has the paths one a line, with white space around them. -/
def Prints (out : Text) (paths : List RepoPath) : Prop :=
  ∃ before after, (∀ c ∈ before, isSpace c = true) ∧ (∀ c ∈ after, isSpace c = true) ∧
    out = before ++ ['\n'].intercalate (paths.map RepoPath.text) ++ after

/-- White space around a text is stripped. -/
theorem strip_of_spaces {before t after : Text} (hbefore : ∀ c ∈ before, isSpace c = true)
    (hafter : ∀ c ∈ after, isSpace c = true) (ht : strip t = t) :
    strip (before ++ t ++ after) = t := by
  have hend (s : Text) : (s ++ after).rdropWhile isSpace = s.rdropWhile isSpace := by
    rw [List.rdropWhile, List.reverse_append, List.dropWhile_append_of_pos
      fun c hc => hafter c (List.mem_reverse.mp hc)]
    rfl
  rw [strip, List.append_assoc, List.dropWhile_append_of_pos hbefore]
  cases t with
  | nil =>
    have hnone : after.dropWhile isSpace = [] := List.dropWhile_eq_nil_iff.mpr hafter
    rw [List.nil_append, hnone]
    rfl
  | cons c t =>
    have hc : isSpace c = false := strip_head c (by rw [ht]; rfl)
    have hstart (s : Text) : (c :: s).dropWhile isSpace = c :: s :=
      List.dropWhile_cons_of_neg (by simp [hc])
    rw [strip, hstart] at ht
    rw [List.cons_append, hstart, ← List.cons_append, hend, ht]

/-- Lines without white space around them have none when they are joined. -/
theorem strip_intercalate {lines : List Text} (h : ∀ line ∈ lines, line ≠ [] ∧ strip line = line) :
    strip (['\n'].intercalate lines) = ['\n'].intercalate lines := by
  induction lines with
  | nil => rfl
  | cons line lines ih =>
    obtain ⟨⟨hne, hline⟩, hlines⟩ := List.forall_mem_cons.mp h
    cases lines with
    | nil => simpa using hline
    | cons next lines =>
      have hrest := ih hlines
      rw [List.intercalate_cons_cons, List.append_assoc]
      refine strip_eq_self (fun c hc => ?_) fun c hc => ?_
      · rw [List.head?_append_of_ne_nil _ hne] at hc
        exact strip_head c (by rwa [hline])
      · have hnext : ['\n'].intercalate (next :: lines) ≠ [] := by
          cases lines with
          | nil => simpa using (hlines next List.mem_cons_self).1
          | cons => simp [List.intercalate_cons_cons]
        rw [List.getLast?_append_of_ne_nil _ (by simp),
          List.getLast?_append_of_ne_nil _ hnext] at hc
        exact strip_last c (by rwa [hrest])

/-- **The names of the printed paths are read back.** -/
theorem changedNames_of_prints {out : Text} {paths : List RepoPath} (h : Prints out paths) :
    changedNames (strip out) = paths.map RepoPath.base := by
  obtain ⟨before, after, hbefore, hafter, rfl⟩ := h
  have hlines : ∀ line ∈ paths.map RepoPath.text,
      line ≠ [] ∧ ∀ c ∈ line, isLineBreak c = false := by
    intro line hline
    obtain ⟨path, -, rfl⟩ := List.mem_map.mp hline
    exact path.isLine_text
  have htrimmed : ∀ line ∈ paths.map RepoPath.text, line ≠ [] ∧ strip line = line := by
    intro line hline
    obtain ⟨path, -, rfl⟩ := List.mem_map.mp hline
    exact ⟨path.isLine_text.1, path.trimmed⟩
  rw [changedNames, strip_of_spaces hbefore hafter (strip_intercalate htrimmed),
    splitlines_intercalate hlines, List.filter_eq_self.mpr, List.map_map]
  · exact List.map_congr_left fun path _ => path.name_text
  · intro line hline
    obtain ⟨hne, hstrip⟩ := htrimmed line hline
    rw [hstrip]
    exact decide_eq_true hne

/-! ### What the loop logs -/

section Loop

variable {lib : Libraries} {recent : List Text} {files all : List ConfigFile} {file : ConfigFile}

/-- A line of the loop tells the status of a file. -/
def LoopLine.Tells (files : List ConfigFile) (recent : List Text) : LoopLine → Prop
  | .info status _ name => ∃ file ∈ files, name = file.name ∧ status = statusOf recent file
  | .error _ _ => True

/-- The loop variable is the file of the round, if it is a file. -/
def LoopNamespace.InRound (file : ConfigFile) (ns : LoopNamespace) : Prop :=
  ∀ other, ns "_config_file" = some (.file other) → other = file

/-- Binding a name to anything but a file leaves the loop variable. -/
theorem LoopNamespace.InRound.update {ns : LoopNamespace} (h : ns.InRound file) (name : Text)
    {object : Option LoopObject} (hobject : ∀ other, object ≠ some (.file other)) :
    LoopNamespace.InRound file (Function.update ns name object) := by
  intro other hother
  rw [Function.update_apply] at hother
  split at hother
  · exact absurd hother (hobject other)
  · exact h other hother

/-- The name of the loop variable is that of the file. -/
theorem LoopNamespace.InRound.name_eq {ns : LoopNamespace} (h : ns.InRound file) {name : Text}
    (hname : ns.configFileName = .ok name) : name = file.name := by
  unfold LoopNamespace.configFileName at hname
  split at hname
  · rename_i other hother
    obtain rfl := h other hother
    exact (Except.ok.inj hname).symm
  · cases hname

/-- Making the DAG leaves the loop variable. -/
theorem triple_makeDagOf {good : LoopLine → Prop} :
    Triple (LoopNamespace.InRound file) good (makeDagOf lib file)
      fun _ ns => ns.InRound file := by
  refine Triple.read.bind fun ns => (Triple.ofExcept _).bind fun _ => ?_
  refine (Triple.ofExcept _).bind fun dag => Triple.bind (Triple.modify fun ns h => ?_)
    fun _ => Triple.ret fun _ h => h
  exact h.1.1.1.update _ (by simp)

/-- Storing the DAG leaves the loop variable, or binds it to the DAG. -/
theorem triple_storeDag {good : LoopLine → Prop} (dag : DagObject) :
    Triple (LoopNamespace.InRound file) good (storeDag dag) fun _ ns => ns.InRound file := by
  refine Triple.read.bind fun ns => (Triple.ofExcept _).bind fun _ => Triple.modify fun ns h => ?_
  exact h.1.1.update _ (by simp)

/-- The status is that of the file. -/
theorem triple_setStatus {good : LoopLine → Prop} :
    Triple (LoopNamespace.InRound file) good (setStatus recent)
      fun status ns => ns.InRound file ∧ status = statusOf recent file := by
  refine Triple.read.bind fun ns => (Triple.ofExcept _).bind fun changed => ?_
  refine Triple.bind (Triple.modify fun ns' h => ?_) fun _ => Triple.ret fun _ h => h
  obtain ⟨⟨hround, rfl⟩, hchanged⟩ := h
  refine ⟨hround.update _ (fun _ h => by cases h), ?_⟩
  obtain ⟨name, hname, hchanged⟩ := bind_eq_ok_iff.mp hchanged
  obtain ⟨-, -, hchanged⟩ := bind_eq_ok_iff.mp hchanged
  obtain rfl := Except.ok.inj hchanged
  rw [hround.name_eq hname, statusOf]

/-- A round tells the status of its file. -/
theorem triple_tryRegister (hfile : file ∈ files) :
    Triple (LoopNamespace.InRound file) (LoopLine.Tells files recent) (tryRegister lib recent file)
      fun _ _ => True := by
  refine triple_makeDagOf.bind fun dag => (triple_storeDag dag).bind fun _ => ?_
  refine triple_setStatus.bind fun status => Triple.read.bind fun ns => ?_
  refine (Triple.ofExcept _).bind fun _ => (Triple.ofExcept _).bind fun name => ?_
  refine (Triple.emit fun ns' h => ?_).conseq (fun _ h => h) fun _ _ _ => trivial
  obtain ⟨⟨⟨⟨hround, hstatus⟩, rfl⟩, -⟩, hname⟩ := h
  exact ⟨file, hfile, hround.name_eq hname, hstatus⟩

/-- The handler logs no status. -/
theorem logs_exceptException (e : PyExc) :
    Logs (LoopLine.Tells files recent) (exceptException e) := by
  have hread : Logs (LoopLine.Tells files recent) (read : LoopAction LoopNamespace) :=
    Triple.read.conseq (fun _ h => h) fun _ _ _ => trivial
  have hexcept {α : Type} (r : Except PyExc α) :
      Logs (LoopLine.Tells files recent) (ofExcept r : LoopAction α) :=
    (Triple.ofExcept r).conseq (fun _ h => h) fun _ _ _ => trivial
  refine hread.bind fun ns => (hexcept _).bind fun _ => (Logs.modify _).bind fun _ => ?_
  refine Logs.ensuring (hread.bind fun ns => (hexcept _).bind fun _ => ?_) (Logs.modify _)
  exact (hexcept _).bind fun name => Logs.emit trivial

/-- **Every status in the log is that of a file.** -/
theorem logs_registerAll (hfiles : files ⊆ all) :
    Logs (LoopLine.Tells all recent) (registerAll lib recent files) := by
  induction files with
  | nil => exact fun _ _ => ⟨fun _ hw => absurd hw List.not_mem_nil, fun _ _ => trivial⟩
  | cons file files ih =>
    obtain ⟨hfile, hfiles⟩ := List.cons_subset.mp hfiles
    have hround : Logs (LoopLine.Tells all recent) (register lib recent file) := by
      refine Triple.bind (Triple.modify fun ns _ => ?_)
        fun _ => (triple_tryRegister hfile).suppress logs_exceptException
      intro other hother
      rw [Function.update_self] at hother
      cases hother
      rfl
    exact hround.bind fun _ => ih hfiles

/-- The configurations that an output names. -/
theorem mem_filterConfigs_iff {dir : ConfigDirectory} {out : Text} {paths : List RepoPath}
    (hprints : Prints out paths) : file ∈ filterConfigs (changedNames (strip out)) dir ↔
      file ∈ dir.configFiles ∧ ∃ path ∈ paths, path.base = file.name := by
  rw [filterConfigs, changedNames_of_prints hprints]
  simp

/-- What `fetch` finds on the remote. -/
theorem fetchAndGetChangedConfigs_of_prints {git : Git} (dir : ConfigDirectory)
    {remote root fetched out : Text} {paths : List RepoPath}
    (hroot : git ["rev-parse", "--show-toplevel"] configDir = .ok root)
    (hfetch : git ["fetch", remote] (PurePath.ofParts [strip root]).toText = .ok fetched)
    (hdiff : git (diffArgs remote) (PurePath.ofParts [strip root]).toText = .ok out)
    (hprints : Prints out paths) :
    ∃ found, fetchAndGetChangedConfigs git dir remote = .ok found ∧ ∀ file, file ∈ found ↔
      file ∈ dir.configFiles ∧ ∃ path ∈ paths, path.base = file.name := by
  refine ⟨filterConfigs (changedNames (strip out)) dir, ?_, fun _ => mem_filterConfigs_iff hprints⟩
  simp only [fetchAndGetChangedConfigs, gitRoot, runGit, hroot, Except.map, ok_bind, hfetch, hdiff]
  rfl

/-- The names that are found to have changed. -/
theorem recentlyChanged_of_prints {git : Git} (dir : ConfigDirectory) {root out : Text}
    {paths : List RepoPath} (hroot : git ["rev-parse", "--show-toplevel"] configDir = .ok root)
    (hshow : git showArgs (PurePath.ofParts [strip root]).toText = .ok out)
    (hprints : Prints out paths) (name : Text) :
    name ∈ recentlyChanged git dir ↔
      (∃ file ∈ dir.configFiles, file.name = name) ∧ ∃ path ∈ paths, path.base = name := by
  have hfound : getChangedConfigsInLatestCommit git dir =
      .ok (filterConfigs (changedNames (strip out)) dir) := by
    simp only [getChangedConfigsInLatestCommit, gitRoot, runGit, hroot, Except.map, ok_bind, hshow]
    rfl
  rw [recentlyChanged, hfound]
  simp only [List.mem_map, mem_filterConfigs_iff hprints]
  constructor
  · rintro ⟨file, ⟨hfile, hpath⟩, rfl⟩
    exact ⟨⟨file, hfile, rfl⟩, hpath⟩
  · rintro ⟨⟨file, hfile, rfl⟩, hpath⟩
    exact ⟨file, ⟨hfile, hpath⟩, rfl⟩

/-- **The log tells which configurations have changed.** Whatever the files of the directory are,
a line of the loop that tells a status tells that of a file of the directory: it is new or updated
exactly when the latest commit has added or modified a path with its name, in whichever directory
of the repository. -/
theorem statuses_truthful (lib : Libraries) {git : Git} (dir : ConfigDirectory) {root out : Text}
    {paths : List RepoPath} (hroot : git ["rev-parse", "--show-toplevel"] configDir = .ok root)
    (hshow : git showArgs (PurePath.ofParts [strip root]).toText = .ok out)
    (hprints : Prints out paths) {status dagId name : Text}
    (hline : .info status dagId name ∈
      (registerAll lib (recentlyChanged git dir) dir.configFiles .fresh).log) :
    (∃ file ∈ dir.configFiles, file.name = name) ∧
      (status = "new/updated" ∧ (∃ path ∈ paths, path.base = name) ∨
        status = "registered" ∧ ∀ path ∈ paths, path.base ≠ name) := by
  obtain ⟨file, hfile, rfl, rfl⟩ :=
    (logs_registerAll (List.Subset.refl _) .fresh trivial).1 _ hline
  refine ⟨⟨file, hfile, rfl⟩, ?_⟩
  have hrecent := recentlyChanged_of_prints dir hroot hshow hprints file.name
  by_cases hmem : file.name ∈ recentlyChanged git dir
  · exact .inl ⟨if_pos (List.contains_iff_mem.mpr hmem), (hrecent.mp hmem).2⟩
  · refine .inr ⟨if_neg (mt List.contains_iff_mem.mp hmem), fun path hpath hbase =>
      hmem (hrecent.mpr ?_)⟩
    exact ⟨⟨file, hfile, rfl⟩, path, hpath, hbase⟩

end Loop

/-- A directory with the configurations `orders.yaml` and `refunds.yaml`. -/
def shopDirectory : ConfigDirectory where
  entries := [⟨"orders.yaml", .ok []⟩, ⟨"refunds.yaml", .ok []⟩]
  nodup := by decide

/-- A path of an archive, with the name of a configuration. -/
def archivedConfig : RepoPath where
  names := ["archive".toList, "orders.yaml".toList]
  nonempty := by simp
  isName := by decide +kernel
  printable := by decide +kernel
  trimmed := by decide +kernel

/-- A repository whose latest commit has archived a configuration. -/
def archivingGit : Git := fun args _ =>
  if args = showArgs then .ok ("\narchive/orders.yaml\n".toList) else .ok ("/opt/airflow\n".toList)

/-- The configuration of the same name is logged as an updated one. -/
theorem statuses_truthful_archivedConfig : ∃ dagId,
    .info "new/updated" dagId "orders.yaml" ∈ (registerAll demoLibraries
      (recentlyChanged archivingGit shopDirectory) shopDirectory.configFiles .fresh).log ∧
    ∃ path ∈ [archivedConfig], path.base = "orders.yaml" := by
  have hlogged : ((registerAll demoLibraries (recentlyChanged archivingGit shopDirectory)
      shopDirectory.configFiles .fresh).log.any fun line =>
        match line with
        | .info status _ name => status = "new/updated" ∧ name = "orders.yaml"
        | .error _ _ => false) = true := by decide +kernel
  obtain ⟨line, hline, htells⟩ := List.any_eq_true.mp hlogged
  cases line with
  | error => cases htells
  | info status dagId name =>
    obtain ⟨rfl, rfl⟩ := of_decide_eq_true htells
    have hprints : Prints "\narchive/orders.yaml\n".toList [archivedConfig] :=
      ⟨['\n'], ['\n'], List.forall_mem_singleton.mpr rfl, List.forall_mem_singleton.mpr rfl,
        by decide +kernel⟩
    obtain ⟨-, ⟨-, hpath⟩ | ⟨hregistered, -⟩⟩ :=
      statuses_truthful demoLibraries shopDirectory rfl rfl hprints hline
    · exact ⟨dagId, hline, hpath⟩
    · exact absurd hregistered (by decide +kernel)

end BatchIngestion
