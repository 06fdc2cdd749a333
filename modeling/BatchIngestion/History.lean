import BatchIngestion.Refinement

/-!
# What every history records

The log of a reachable state is a history of the ledger. A run fixes both its
checkpoints in the init task and never changes them afterwards, it saves the text of
its own `checkpoint_to`, and before a save it has landed a batch and published a
metric.
-/

namespace BatchIngestion

open Python Library

variable {ι σ β : Type}

/-! ### Logs with a new action -/

/-- A run has done what it just did, and what it did before. -/
theorem did_cons {log : List (ι × Action σ β)} {i j : ι} {a b : Action σ β} :
    (i, b) ∈ (j, a) :: log ↔ (i = j ∧ a = b) ∨ (i, b) ∈ log := by
  simp [eq_comm]

/-- A newly finished task, or one that was finished before. -/
theorem finished_cons {log : List (ι × Action σ β)} {i j : ι} {a : Action σ β} {task : Task} :
    Finished ((j, a) :: log) i task ↔ (i = j ∧ a = .finished task) ∨ Finished log i task :=
  did_cons

/-- A newly landed batch, or one that has landed before. -/
theorem landed_cons {log : List (ι × Action σ β)} {i j : ι} {a : Action σ β} {b : β} :
    Landed ((j, a) :: log) i b ↔ (i = j ∧ a = .landed b) ∨ Landed log i b :=
  did_cons

/-- A computed `checkpoint_to` is the newest reported value. -/
theorem reportedIn_fetchedTo (log : List (ι × Action σ β)) (i : ι) (v : CheckpointValue) :
    reportedIn ((i, .fetchedTo (some v)) :: log) = v :: reportedIn log := rfl

/-- Reported values are added in front. -/
theorem reportedIn_suffix (log : List (ι × Action σ β)) (i : ι) (a : Action σ β) :
    reportedIn log <:+ reportedIn ((i, a) :: log) :=
  (List.suffix_cons (i, a) log).filterMap _

/-- What was reported stays reported. -/
theorem mem_reportedIn_cons {log : List (ι × Action σ β)} {i : ι} {a : Action σ β}
    {v : CheckpointValue} (h : v ∈ reportedIn log) : v ∈ reportedIn ((i, a) :: log) :=
  (reportedIn_suffix log i a).subset h

section History

variable [DecidableEq ι]

/-! ### Checkpoints are fixed -/

namespace System.Allowed

variable {sys : System ι σ β} {initial : Text → Option Text} {source : σ}
  {log : List (ι × Action σ β)} {i j : ι} {a : Action σ β}

/-- A run that has finished its init task fetches nothing afterwards: the newest of its
fetches stays the newest. -/
theorem newest_cons_of_finished {γ : Type} {select : Action σ β → Option γ}
    (h : sys.Allowed initial source log i a) (hfin : Finished log j .init)
    (hselect : (∀ v, a ≠ .fetchedFrom v) → (∀ v, a ≠ .fetchedTo v) → select a = none) :
    newest select ((i, a) :: log) j = newest select log j := by
  by_cases hij : i = j
  · subst hij
    refine newest_cons_of_none (hselect (fun v hv => ?_) fun v hv => ?_) i i log
    · subst hv
      cases h with
      | fetchedFrom hopen => exact hopen hfin
    · subst hv
      cases h with
      | fetchedTo hopen => exact hopen hfin
  · exact newest_cons_of_ne _ hij a log

/-- A run that has finished its init task keeps its `checkpoint_from`. -/
theorem lastFrom_cons (h : sys.Allowed initial source log i a) (hfin : Finished log j .init) :
    lastFrom ((i, a) :: log) j = lastFrom log j :=
  h.newest_cons_of_finished hfin fun hfrom _ => by
    cases a with
    | fetchedFrom v => exact absurd rfl (hfrom v)
    | _ => rfl

/-- A run that has finished its init task keeps its `checkpoint_to`. -/
theorem lastTo_cons (h : sys.Allowed initial source log i a) (hfin : Finished log j .init) :
    lastTo ((i, a) :: log) j = lastTo log j :=
  h.newest_cons_of_finished hfin fun _ hto => by
    cases a with
    | fetchedTo v => exact absurd rfl (hto v)
    | _ => rfl

/-- A run that has finished its init task keeps the order of its fetches. -/
theorem toAfterFrom_cons (h : sys.Allowed initial source log i a) (hfin : Finished log j .init) :
    ToAfterFrom ((i, a) :: log) j ↔ ToAfterFrom log j := by
  have hsame : newest Action.isTo? ((i, a) :: log) j = newest Action.isTo? log j :=
    h.newest_cons_of_finished hfin fun hfrom hto => by
      cases a with
      | fetchedFrom v => exact absurd rfl (hfrom v)
      | fetchedTo v => exact absurd rfl (hto v)
      | _ => rfl
  unfold ToAfterFrom
  rw [hsame]

/-- The last `checkpoint_from` of a run is the fetched one, or what it was. -/
theorem lastFrom_cases (h : sys.Allowed initial source log i a) {v : Option CheckpointValue}
    (hv : lastFrom ((i, a) :: log) j = some v) :
    (j = i ∧ ¬ Finished log i .init ∧ InitOperator.parseRow
      ((sys.stored initial log (sys.dag i).dagId).map .text) = .ok v) ∨
      lastFrom log j = some v := by
  by_cases hij : i = j
  · subst hij
    cases h with
    | @fetchedFrom w hopen hrow =>
      obtain rfl : w = v := Option.some.inj ((lastFrom_fetchedFrom log i w).symm.trans hv)
      exact .inl ⟨rfl, hopen, hrow⟩
    | _ => exact .inr ((newest_cons_of_none rfl i i log).symm.trans hv)
  · exact .inr ((newest_cons_of_ne _ hij a log).symm.trans hv)

/-- The last batch of a run is the one it just read, or what it was. -/
theorem lastBatch_cases (h : sys.Allowed initial source log i a) {b : β}
    (hb : lastBatch ((i, a) :: log) j = some b) :
    (j = i ∧ a = .read source b ∧ ∃ f t, Finished log i .init ∧ lastFrom log i = some f ∧
      lastTo log i = some t ∧ (sys.dag i).source.read source f t = .ok b) ∨
      lastBatch log j = some b := by
  by_cases hij : i = j
  · subst hij
    cases h with
    | @read f t c hinit hfrom hto hread =>
      obtain rfl : c = b := Option.some.inj ((lastBatch_read log i source c).symm.trans hb)
      exact .inl ⟨rfl, rfl, f, t, hinit, hfrom, hto, hread⟩
    | _ => exact .inr ((newest_cons_of_none rfl i i log).symm.trans hb)
  · exact .inr ((newest_cons_of_ne _ hij a log).symm.trans hb)

/-- A newly reported value is the maximum of the source. -/
theorem mem_reportedIn_cases (h : sys.Allowed initial source log i a) {v : CheckpointValue}
    (hv : v ∈ reportedIn ((i, a) :: log)) :
    InitOperator.fetchCheckpointTo (sys.dag i).source.readType (sys.dag i).source.config
      ((sys.dag i).source.native source) = some v ∨ v ∈ reportedIn log := by
  cases h with
  | @fetchedTo w hopen hmax =>
    cases w with
    | none => exact .inr hv
    | some w =>
      rcases List.mem_cons.mp hv with rfl | hv
      · exact .inl (hmax.resolve_left (by simp)).symm
      · exact .inr hv
  | _ => exact .inr hv

end System.Allowed

/-- The last batch of a run was read. -/
theorem exists_read_of_lastBatch {log : List (ι × Action σ β)} {i : ι} {b : β}
    (h : lastBatch log i = some b) : ∃ source, (i, .read source b) ∈ log := by
  obtain ⟨a, hmem, ha⟩ := exists_mem_of_newest h
  cases a with
  | read source c =>
    obtain rfl : c = b := Option.some.inj ha
    exact ⟨source, hmem⟩
  | _ => simp [Action.batch?] at ha

/-! ### The order of the tasks -/

/-- What every history records of the tasks of a run. -/
structure WellOrdered (sys : System ι σ β) (log : List (ι × Action σ β)) : Prop where
  /-- The init task fetches both checkpoints. -/
  init_fetches : ∀ i, Finished log i .init →
    (∃ f, lastFrom log i = some f) ∧ ∃ t, lastTo log i = some t
  /-- It computes the `checkpoint_to` after it fetched the `checkpoint_from`. -/
  init_order : ∀ i, Finished log i .init → ToAfterFrom log i
  /-- A run reads after its init task. -/
  read_init : ∀ i source b, (i, .read source b) ∈ log → Finished log i .init
  /-- What a run reads is the answer of its source to its own window. -/
  read_window : ∀ i source b, (i, .read source b) ∈ log → ∃ f t, lastFrom log i = some f ∧
    lastTo log i = some t ∧ (sys.dag i).source.read source f t = .ok b
  /-- A run lands after its init task. -/
  landed_init : ∀ i b, Landed log i b → Finished log i .init
  /-- The Spark task has landed a batch. -/
  spark_landed : ∀ i, Finished log i .sparkRun → ∃ b, Landed log i b
  /-- A run saves after its Spark task. -/
  saved_spark : ∀ i text, (i, .saved text) ∈ log → Finished log i .sparkRun
  /-- A run saves the text of its own `checkpoint_to`. -/
  saved_to : ∀ i text, (i, .saved text) ∈ log → ∃ t, lastTo log i = some t ∧
    checkpointText (serialiseCheckpoint t) = .ok (some text)
  /-- What lands was read, unless the source is a path. -/
  landed_read : ∀ i b, Landed log i b → (sys.dag i).source.config.isPath = false →
    ∃ source, (i, .read source b) ∈ log
  /-- A metric is that of a failing Spark task, or has the texts of both checkpoints. -/
  published_texts : ∀ i payload, (i, .published payload) ∈ log →
    (∃ error, payload = failurePayload (sys.dag i).dagId (sys.info i).runId error) ∨
    ∃ now pulled f t, payload =
        (sys.dag i).metricPush.payload (sys.dag i).dagId now (sys.info i) pulled ∧
      Finished log i .sparkRun ∧ lastFrom log i = some f ∧ lastTo log i = some t ∧
      checkpointText (serialiseCheckpoint f) = .ok pulled.checkpointFrom ∧
      checkpointText (serialiseCheckpoint t) = .ok pulled.checkpointTo
  /-- What was reported is stable. -/
  reported_stable : ∀ v ∈ reportedIn log, v.Stable

/-- The Spark task follows the init task. -/
theorem WellOrdered.spark_init {sys : System ι σ β} {log : List (ι × Action σ β)}
    (h : WellOrdered sys log) {i : ι} (hspark : Finished log i .sparkRun) :
    Finished log i .init := by
  obtain ⟨b, hb⟩ := h.spark_landed i hspark
  exact h.landed_init i b hb

/-- A run with a batch has finished its init task. -/
theorem WellOrdered.batch_init {sys : System ι σ β} {log : List (ι × Action σ β)}
    (h : WellOrdered sys log) {i : ι} {b : β} (hb : lastBatch log i = some b) :
    Finished log i .init := by
  obtain ⟨source, hread⟩ := exists_read_of_lastBatch hb
  exact h.read_init i source b hread

/-- The empty history is in order. -/
theorem wellOrdered_nil (sys : System ι σ β) : WellOrdered sys [] where
  init_fetches i hfin := by simp [Finished] at hfin
  init_order i hfin := by simp [Finished] at hfin
  read_init i source b hmem := by simp at hmem
  read_window i source b hmem := by simp at hmem
  landed_init i b hb := by simp [Landed] at hb
  spark_landed i hfin := by simp [Finished] at hfin
  saved_spark i text hmem := by simp at hmem
  saved_to i text hmem := by simp at hmem
  landed_read i b hb := by simp [Landed] at hb
  published_texts i payload hmem := by simp at hmem
  reported_stable v hv := by simp [reportedIn] at hv

/-- An allowed action keeps a history in order. -/
theorem WellOrdered.cons {sys : System ι σ β} {initial : Text → Option Text} {source : σ}
    {log : List (ι × Action σ β)} {i : ι} {a : Action σ β} (h : WellOrdered sys log)
    (hallowed : sys.Allowed initial source log i a) : WellOrdered sys ((i, a) :: log) where
  init_fetches j hfin := by
    rcases finished_cons.mp hfin with ⟨rfl, rfl⟩ | hfin
    · cases hallowed with
      | initFinished hopen hfrom hto =>
        exact ⟨⟨_, (newest_cons_of_none rfl j j log).trans hfrom⟩,
          _, (newest_cons_of_none rfl j j log).trans hto⟩
    · rw [hallowed.lastFrom_cons hfin, hallowed.lastTo_cons hfin]
      exact h.init_fetches j hfin
  init_order j hfin := by
    rcases finished_cons.mp hfin with ⟨rfl, rfl⟩ | hfin
    · cases hallowed with
      | initFinished hopen hfrom hto horder =>
        exact (newest_cons_of_none rfl j j log).trans horder
    · exact (hallowed.toAfterFrom_cons hfin).mpr (h.init_order j hfin)
  read_init j source b hmem := by
    rcases did_cons.mp hmem with ⟨rfl, rfl⟩ | hmem
    · cases hallowed with
      | read hinit => exact finished_cons.mpr (.inr hinit)
    · exact finished_cons.mpr (.inr (h.read_init j source b hmem))
  read_window j source b hmem := by
    rcases did_cons.mp hmem with ⟨rfl, rfl⟩ | hmem
    · cases hallowed with
      | @read f t _ hinit hfrom hto hread =>
        exact ⟨f, t, (newest_cons_of_none rfl j j log).trans hfrom,
          (newest_cons_of_none rfl j j log).trans hto, hread⟩
    · have hinit := h.read_init j source b hmem
      rw [hallowed.lastFrom_cons hinit, hallowed.lastTo_cons hinit]
      exact h.read_window j source b hmem
  landed_init j b hb := by
    rcases landed_cons.mp hb with ⟨rfl, rfl⟩ | hb
    · cases hallowed with
      | landed hinit | copied hinit => exact finished_cons.mpr (.inr hinit)
    · exact finished_cons.mpr (.inr (h.landed_init j b hb))
  spark_landed j hfin := by
    rcases finished_cons.mp hfin with ⟨rfl, rfl⟩ | hfin
    · cases hallowed with
      | sparkFinished hlanded => exact ⟨_, landed_cons.mpr (.inr hlanded)⟩
    · obtain ⟨b, hb⟩ := h.spark_landed j hfin
      exact ⟨b, landed_cons.mpr (.inr hb)⟩
  saved_spark j text hmem := by
    rcases did_cons.mp hmem with ⟨rfl, rfl⟩ | hmem
    · cases hallowed with
      | saved hspark => exact finished_cons.mpr (.inr hspark)
    · exact finished_cons.mpr (.inr (h.saved_spark j text hmem))
  saved_to j text hmem := by
    rcases did_cons.mp hmem with ⟨rfl, rfl⟩ | hmem
    · cases hallowed with
      | saved hspark hto htext => exact ⟨_, (newest_cons_of_none rfl j j log).trans hto, htext⟩
    · rw [hallowed.lastTo_cons (h.spark_init (h.saved_spark j text hmem))]
      exact h.saved_to j text hmem
  landed_read j b hb hpath := by
    rcases landed_cons.mp hb with ⟨rfl, rfl⟩ | hb
    · cases hallowed with
      | landed hinit hbatch =>
        obtain ⟨source, hread⟩ := exists_read_of_lastBatch hbatch
        exact ⟨source, List.mem_cons_of_mem _ hread⟩
      | copied hinit hcopied => exact absurd hcopied (by simp [hpath])
    · obtain ⟨source, hread⟩ := h.landed_read j b hb hpath
      exact ⟨source, List.mem_cons_of_mem _ hread⟩
  published_texts j payload hmem := by
    rcases did_cons.mp hmem with ⟨rfl, rfl⟩ | hmem
    · cases hallowed with
      | @published f t now pulled hspark hfrom hto hpulledFrom hpulledTo =>
        exact .inr ⟨now, pulled, f, t, rfl, finished_cons.mpr (.inr hspark),
          (newest_cons_of_none rfl j j log).trans hfrom,
          (newest_cons_of_none rfl j j log).trans hto, hpulledFrom, hpulledTo⟩
      | @reportedFailure error => exact .inl ⟨error, rfl⟩
    · rcases h.published_texts j payload hmem with
        hfailure | ⟨now, pulled, f, t, heq, hspark, hfrom, hto, htexts⟩
      · exact .inl hfailure
      · have hinit := h.spark_init hspark
        exact .inr ⟨now, pulled, f, t, heq, finished_cons.mpr (.inr hspark),
          (hallowed.lastFrom_cons hinit).trans hfrom, (hallowed.lastTo_cons hinit).trans hto,
          htexts⟩
  reported_stable v hv := by
    rcases hallowed.mem_reportedIn_cases hv with hmax | hv
    · exact InitOperator.fetchCheckpointTo_stable hmax
    · exact h.reported_stable v hv

/-- A run that reads has finished its init task. -/
theorem WellOrdered.init_of_read {sys : System ι σ β} {initial : Text → Option Text}
    {source : σ} {log : List (ι × Action σ β)} {i j : ι} {a : Action σ β}
    (h : WellOrdered sys log) (hallowed : sys.Allowed initial source log i a) {s : σ} {b : β}
    (hmem : (j, .read s b) ∈ (i, a) :: log) : Finished log j .init := by
  rcases did_cons.mp hmem with ⟨rfl, rfl⟩ | hmem
  · cases hallowed with
    | read hinit => exact hinit
  · exact h.read_init j s b hmem

/-- **Every history is in order.** -/
theorem System.wellOrdered_of_exec {sys : System ι σ β} {source : σ} {store : Text → Option Text}
    {es : List (Event ι σ)} {S : State ι σ β}
    (h : exec sys.step (State.start sys source store) es = some S) : WellOrdered sys S.log :=
  sys.ledger_invariant (fun _ log => WellOrdered sys log) (wellOrdered_nil sys)
    (fun hinv _ => hinv) (fun hinv hallowed => hinv.cons hallowed) h

/-! ### Saved texts -/

section Saved

variable {sys : System ι σ β} {log : List (ι × Action σ β)} {i : ι} {text : Text}

/-- Only a `checkpoint_to` that is no `None` has a text. -/
theorem exists_of_checkpointText {t : Option CheckpointValue}
    (h : checkpointText (serialiseCheckpoint t) = .ok (some text)) :
    ∃ v, t = some v ∧ v.serialise.text = .ok (some text) := by
  cases t with
  | none => simp [serialiseCheckpoint, checkpointText] at h
  | some v => exact ⟨v, rfl, h⟩

/-- **A saved text reads back as the `checkpoint_to` of the run that saved it.** -/
theorem WellOrdered.parseText_of_saved (h : WellOrdered sys log) (hmem : (i, .saved text) ∈ log) :
    lastTo log i = some (some (parseText text)) := by
  obtain ⟨t, hto, htext⟩ := h.saved_to i text hmem
  obtain ⟨v, rfl, htext⟩ := exists_of_checkpointText htext
  rw [parseText_of_text (h.reported_stable v (mem_reportedIn_of_lastTo hto)) htext]
  exact hto

end Saved

end History

end BatchIngestion
