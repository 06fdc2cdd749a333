import BatchIngestion.Pipeline

/-!
# The ledger of a pipeline

An abstract account of the pipelines: a state of the source and a log of actions.
An action may be appended when the log justifies it. A run saves the text of the
`checkpoint_to` it fetched last, after a read of exactly its own window has landed
and its metric was published; the row of a DAG is the text that was saved last.
Steps, attempts, local variables and XCom do not occur here.
-/

namespace BatchIngestion

open Python Library

variable {ι σ β : Type}

/-- The value of a `fetchedFrom` action. -/
def Action.from? : Action σ β → Option (Option CheckpointValue)
  | .fetchedFrom v => some v
  | _ => none

/-- The value of a `fetchedTo` action. -/
def Action.to? : Action σ β → Option (Option CheckpointValue)
  | .fetchedTo v => some v
  | _ => none

/-- Whether a fetch is that of a `checkpoint_to`. -/
def Action.isTo? : Action σ β → Option Bool
  | .fetchedFrom _ => some false
  | .fetchedTo _ => some true
  | _ => none

/-- The batch of a `read` action. -/
def Action.batch? : Action σ β → Option β
  | .read _ b => some b
  | _ => none

/-- A task of a run has succeeded. -/
def Finished (log : List (ι × Action σ β)) (i : ι) (task : Task) : Prop := (i, .finished task) ∈ log

/-- A batch of a run has landed. -/
def Landed (log : List (ι × Action σ β)) (i : ι) (batch : β) : Prop := (i, .landed batch) ∈ log

/-- A payload has the status of the operator that pushes it. -/
def MetricPushOperator.Reports (op : MetricPushOperator) (payload : Payload) : Prop :=
  ∃ dagId now info pulled, payload = op.payload dagId now info pulled

/-- The table `public.checkpoints` after a log. -/
def System.stored (sys : System ι σ β) (initial : Text → Option Text) :
    List (ι × Action σ β) → Text → Option Text
  | [] => initial
  | (i, .saved text) :: log =>
    Function.update (sys.stored initial log) (sys.dag i).dagId (some text)
  | _ :: log => sys.stored initial log

/-- A save replaces the row of its DAG. -/
@[simp] theorem System.stored_saved (sys : System ι σ β) (initial : Text → Option Text) (i : ι)
    (text : Text) (log : List (ι × Action σ β)) :
    sys.stored initial ((i, .saved text) :: log) =
      Function.update (sys.stored initial log) (sys.dag i).dagId (some text) := rfl

/-- No other action changes a row. -/
theorem System.stored_cons_of_ne (sys : System ι σ β) (initial : Text → Option Text) (i : ι)
    {a : Action σ β} (ha : ∀ text, a ≠ .saved text) (log : List (ι × Action σ β)) :
    sys.stored initial ((i, a) :: log) = sys.stored initial log := by
  cases a with
  | saved text => exact absurd rfl (ha text)
  | fetchedFrom | fetchedTo | read | landed | finished | published => rfl

/-- The text of a row was saved by a run of its DAG, unless it was there initially. -/
theorem System.stored_eq_some {sys : System ι σ β} {initial : Text → Option Text}
    {log : List (ι × Action σ β)} {d text : Text} (h : sys.stored initial log d = some text) :
    initial d = some text ∨ ∃ i, (i, .saved text) ∈ log ∧ (sys.dag i).dagId = d := by
  induction log with
  | nil => exact .inl h
  | cons entry log ih =>
    obtain ⟨i, a⟩ := entry
    by_cases ha : ∃ text', a = .saved text'
    · obtain ⟨text', rfl⟩ := ha
      rw [stored_saved] at h
      by_cases hd : d = (sys.dag i).dagId
      · subst hd
        rw [Function.update_self] at h
        obtain rfl := Option.some.inj h
        exact .inr ⟨i, List.mem_cons_self, rfl⟩
      · rw [Function.update_of_ne hd] at h
        exact (ih h).imp_right fun ⟨j, hj, hdag⟩ => ⟨j, List.mem_cons_of_mem _ hj, hdag⟩
    · rw [sys.stored_cons_of_ne initial i (fun text' h' => ha ⟨text', h'⟩)] at h
      exact (ih h).imp_right fun ⟨j, hj, hdag⟩ => ⟨j, List.mem_cons_of_mem _ hj, hdag⟩

/-- A computed `checkpoint_to` is reported. -/
theorem mem_reportedIn {log : List (ι × Action σ β)} {v : CheckpointValue} :
    v ∈ reportedIn log ↔ ∃ i, (i, .fetchedTo (some v)) ∈ log := by
  simp only [reportedIn, List.mem_filterMap, Prod.exists]
  constructor
  · rintro ⟨i, a, hmem, ha⟩
    cases a with
    | fetchedTo w =>
      obtain rfl : w = some v := ha
      exact ⟨i, hmem⟩
    | fetchedFrom | read | landed | finished | published | saved => simp [Action.reported?] at ha
  · rintro ⟨i, hmem⟩
    exact ⟨i, _, hmem, rfl⟩

section Ledger

variable [DecidableEq ι]

/-- The `checkpoint_from` that a run fetched last. -/
def lastFrom (log : List (ι × Action σ β)) (i : ι) : Option (Option CheckpointValue) :=
  newest Action.from? log i

/-- The `checkpoint_to` that a run computed last. -/
def lastTo (log : List (ι × Action σ β)) (i : ι) : Option (Option CheckpointValue) :=
  newest Action.to? log i

/-- A run has computed its `checkpoint_to` since it fetched its `checkpoint_from`. -/
def ToAfterFrom (log : List (ι × Action σ β)) (i : ι) : Prop :=
  newest Action.isTo? log i = some true

/-- The batch that a run read last. -/
def lastBatch (log : List (ι × Action σ β)) (i : ι) : Option β := newest Action.batch? log i

/-- The actions that a log and a state of the source justify. -/
inductive System.Allowed (sys : System ι σ β) (initial : Text → Option Text) (source : σ)
    (log : List (ι × Action σ β)) (i : ι) : Action σ β → Prop
  /-- The init task reads the row of its DAG. -/
  | fetchedFrom {v} (hopen : ¬ Finished log i .init)
      (hrow : InitOperator.parseRow ((sys.stored initial log (sys.dag i).dagId).map .text) =
        .ok v) :
      Allowed sys initial source log i (.fetchedFrom v)
  /-- The init task computes the maximum of the source, or fails to. -/
  | fetchedTo {v} (hopen : ¬ Finished log i .init)
      (hmax : v = none ∨ v = InitOperator.fetchCheckpointTo (sys.dag i).source.readType
        (sys.dag i).source.config ((sys.dag i).source.native source)) :
      Allowed sys initial source log i (.fetchedTo v)
  /-- The init task succeeds with both checkpoints, fetched in this order. -/
  | initFinished {f t} (hopen : ¬ Finished log i .init) (hfrom : lastFrom log i = some f)
      (hto : lastTo log i = some t) (horder : ToAfterFrom log i) :
      Allowed sys initial source log i (.finished .init)
  /-- The Spark task reads the window of the run. -/
  | read {f t b} (hinit : Finished log i .init) (hfrom : lastFrom log i = some f)
      (hto : lastTo log i = some t) (hread : (sys.dag i).source.read source f t = .ok b) :
      Allowed sys initial source log i (.read source b)
  /-- The batch that was read last lands. -/
  | landed {b} (hinit : Finished log i .init) (hbatch : lastBatch log i = some b) :
      Allowed sys initial source log i (.landed b)
  /-- The files of a path source land. -/
  | copied (hinit : Finished log i .init) (hpath : (sys.dag i).source.config.isPath = true) :
      Allowed sys initial source log i (.landed ((sys.dag i).source.copied source))
  /-- The Spark task succeeds after a batch has landed. -/
  | sparkFinished {b} (hlanded : Landed log i b) :
      Allowed sys initial source log i (.finished .sparkRun)
  /-- The metric of a successful run is published, with the texts of its checkpoints. -/
  | published {f t now pulled} (hspark : Finished log i .sparkRun)
      (hfrom : lastFrom log i = some f) (hto : lastTo log i = some t)
      (hpulledFrom : checkpointText (serialiseCheckpoint f) = .ok pulled.checkpointFrom)
      (hpulledTo : checkpointText (serialiseCheckpoint t) = .ok pulled.checkpointTo) :
      Allowed sys initial source log i (.published
        ((sys.dag i).metricPush.payload (sys.dag i).dagId now (sys.info i) pulled))
  /-- A failing Spark task publishes an inline metric. -/
  | reportedFailure {error} : Allowed sys initial source log i (.published
      (failurePayload (sys.dag i).dagId (sys.info i).runId error))
  /-- The metric task saves the text of its own `checkpoint_to`. -/
  | saved {t text payload} (hspark : Finished log i .sparkRun) (hto : lastTo log i = some t)
      (htext : checkpointText (serialiseCheckpoint t) = .ok (some text))
      (hpublished : (i, .published payload) ∈ log)
      (hreports : (sys.dag i).metricPush.Reports payload) :
      Allowed sys initial source log i (.saved text)
  /-- The metric task succeeds. -/
  | metricFinished : Allowed sys initial source log i (.finished .metricPush)

/-- A fetched `checkpoint_from` is the last one. -/
@[simp] theorem lastFrom_fetchedFrom (log : List (ι × Action σ β)) (i : ι)
    (v : Option CheckpointValue) : lastFrom ((i, .fetchedFrom v) :: log) i = some v := by
  rw [lastFrom, newest_cons, if_pos rfl]
  rfl

/-- A computed `checkpoint_to` is the last one. -/
@[simp] theorem lastTo_fetchedTo (log : List (ι × Action σ β)) (i : ι)
    (v : Option CheckpointValue) : lastTo ((i, .fetchedTo v) :: log) i = some v := by
  rw [lastTo, newest_cons, if_pos rfl]
  rfl

/-- A computed `checkpoint_to` is later than the fetched `checkpoint_from`. -/
theorem toAfterFrom_fetchedTo (log : List (ι × Action σ β)) (i : ι) (v : Option CheckpointValue) :
    ToAfterFrom ((i, .fetchedTo v) :: log) i := by
  rw [ToAfterFrom, newest_cons, if_pos rfl]
  rfl

/-- A batch that was read is the last one. -/
@[simp] theorem lastBatch_read (log : List (ι × Action σ β)) (i : ι) (source : σ) (b : β) :
    lastBatch ((i, .read source b) :: log) i = some b := by
  rw [lastBatch, newest_cons, if_pos rfl]
  rfl

/-- The `checkpoint_to` of a run is reported. -/
theorem mem_reportedIn_of_lastTo {log : List (ι × Action σ β)} {i : ι} {v : CheckpointValue}
    (h : lastTo log i = some (some v)) : v ∈ reportedIn log := by
  obtain ⟨a, hmem, ha⟩ := exists_mem_of_newest h
  cases a with
  | fetchedTo w =>
    obtain rfl : w = some v := Option.some.inj ha
    exact mem_reportedIn.mpr ⟨i, hmem⟩
  | fetchedFrom | read | landed | finished | published | saved => simp [Action.to?] at ha

end Ledger

end BatchIngestion
