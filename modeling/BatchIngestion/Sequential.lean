import BatchIngestion.History

/-!
# Runs that do not overlap

A monitor lets a run act only until the next run of the DAG starts. Such a run fetches
the `checkpoint_to` of the latest earlier run that saved one: the value goes through
two encoders and an untyped text column, and comes back with its type.
-/

namespace BatchIngestion

open Python Library

variable {ι σ β : Type}

/-- A metric with the status of a successful run. -/
def Payload.IsSuccess (payload : Payload) : Prop :=
  Dict.get? payload ("status" : Text) = some (.str "success")

/-- A run has saved a checkpoint. -/
def HasSaved (log : List (ι × Action σ β)) (i : ι) : Prop := ∃ text, (i, .saved text) ∈ log

/-- A run has saved a checkpoint if and only if some entry of the log says so. -/
theorem any_iff_hasSaved [DecidableEq ι] {log : List (ι × Action σ β)} {i : ι} :
    (log.any fun entry => decide (entry.1 = i) && entry.2.text?.isSome) = true ↔
      HasSaved log i := by
  simp only [List.any_eq_true, Bool.and_eq_true, decide_eq_true_eq, Prod.exists, HasSaved]
  constructor
  · rintro ⟨j, a, hmem, rfl, ha⟩
    cases a with
    | saved text => exact ⟨text, hmem⟩
    | _ => simp [Action.text?] at ha
  · rintro ⟨text, hmem⟩
    exact ⟨i, _, hmem, rfl, rfl⟩

section Monitor

variable [DecidableEq ι]

instance (log : List (ι × Action σ β)) : DecidablePred (HasSaved log) :=
  fun _ => decidable_of_iff _ any_iff_hasSaved

/-- The runs that have acted, newest first. A run may act while it is the newest, and a run
that has not acted yet may start. -/
def nonOverlapping (ran : List ι) (e : Event ι σ) : Option (List ι) :=
  match e.actor with
  | none => some ran
  | some i =>
    if ran.head? = some i then some ran else if i ∈ ran then none else some (i :: ran)

/-- The run that acts is the newest one afterwards, and was so before or starts. -/
theorem nonOverlapping_cases {ran ran' : List ι} {e : Event ι σ} {i : ι} (hactor : e.actor = some i)
    (h : nonOverlapping ran e = some ran') :
    (∃ earlier, ran' = i :: earlier) ∧ (ran' = ran ∨ (i ∉ ran ∧ ran' = i :: ran)) := by
  simp only [nonOverlapping, hactor] at h
  split at h
  · rename_i hhead
    obtain rfl := Option.some.inj h
    cases ran with
    | nil => simp at hhead
    | cons j earlier =>
      obtain rfl : j = i := by simpa using hhead
      exact ⟨⟨earlier, rfl⟩, .inl rfl⟩
  · split at h
    · simp at h
    · rename_i hstart
      obtain rfl := Option.some.inj h
      exact ⟨⟨ran, rfl⟩, .inr ⟨hstart, rfl⟩⟩

/-- No run acts when the source changes. -/
theorem nonOverlapping_source {ran ran' : List ι} {next : σ}
    (h : nonOverlapping ran (.source next) = some ran') : ran' = ran :=
  (Option.some.inj h).symm

/-- What the changes of the source, the starts of runs and the allowed actions of the newest
run preserve holds when runs do not overlap. -/
theorem System.sequential_invariant {sys : System ι σ β} {source : σ}
    {store : Text → Option Text} {S : State ι σ β} {es : List (Event ι σ)} {ran : List ι}
    (inv : σ → List (ι × Action σ β) → List ι → Prop) (hstart : inv source [] [])
    (hmove : ∀ {src log ran next}, inv src log ran → sys.moves (reportedIn log) src next = true →
      inv next log ran)
    (hbegin : ∀ {src log ran i}, inv src log ran → i ∉ ran → inv src log (i :: ran))
    (hact : ∀ {src log ran i a}, inv src log (i :: ran) → sys.Allowed store src log i a →
      inv src ((i, a) :: log) (i :: ran))
    (h : exec sys.step (State.start sys source store) es = some S)
    (hwatch : exec nonOverlapping [] es = some ran) : inv S.source S.log ran := by
  refine sys.ledger_invariant₂ inv hstart ?_ ?_ ?_ h hwatch
  · intro src log m next n hinv hmoves hw
    rw [nonOverlapping_source hw]
    exact hmove hinv hmoves
  · intro src log m n e i hinv hactor hw
    rcases (nonOverlapping_cases hactor hw).2 with rfl | ⟨hi, rfl⟩
    · exact hinv
    · exact hbegin hinv hi
  · intro src log m n e i a hinv hactor hw hallowed
    obtain ⟨earlier, rfl⟩ := (nonOverlapping_cases hactor hw).1
    exact hact hinv hallowed

/-- What a list of runs, newest first, leaves in the store: the `checkpoint_to` of the
latest run that saved one, else what was there initially. -/
def carried (initial : Option Text) (log : List (ι × Action σ β)) (ran : List ι) :
    Option CheckpointValue :=
  match ran.find? fun i => HasSaved log i with
  | some i => (lastTo log i).join
  | none => initial.map parseText

variable {sys : System ι σ β} {initial : Text → Option Text} {source : σ}
  {log : List (ι × Action σ β)} {ran earlier : List ι} {i j : ι} {a : Action σ β}

/-- The latest run counts if it saved a checkpoint. -/
theorem carried_cons_of_saved {init : Option Text} (h : HasSaved log i) :
    carried init log (i :: earlier) = (lastTo log i).join := by
  simp [carried, h]

/-- The latest run does not count if it saved no checkpoint. -/
theorem carried_cons_of_not_saved {init : Option Text} (h : ¬ HasSaved log i) :
    carried init log (i :: earlier) = carried init log earlier := by
  simp [carried, h]

omit [DecidableEq ι] in
/-- Another run saves nothing in an action. -/
theorem hasSaved_cons_of_ne (h : i ≠ j) : HasSaved ((i, a) :: log) j ↔ HasSaved log j :=
  exists_congr fun text => by
    rw [did_cons, or_iff_right]
    exact fun hj => h hj.1.symm

/-- What runs leave behind does not depend on the actions of other runs. -/
theorem carried_of_notMem {init : Option Text} (h : i ∉ ran) :
    carried init ((i, a) :: log) ran = carried init log ran := by
  induction ran with
  | nil => rfl
  | cons j ran ih =>
    rw [List.mem_cons, not_or] at h
    by_cases hj : HasSaved log j
    · rw [carried_cons_of_saved hj, carried_cons_of_saved ((hasSaved_cons_of_ne h.1).mpr hj),
        lastTo, newest_cons_of_ne _ h.1]
      rfl
    · rw [carried_cons_of_not_saved hj,
        carried_cons_of_not_saved (mt (hasSaved_cons_of_ne h.1).mp hj), ih h.2]

/-- The last `checkpoint_to` of a run is the one it just computed, or what it was. -/
theorem lastTo_cons_cases {v : CheckpointValue} (hv : lastTo ((i, a) :: log) j = some (some v)) :
    (j = i ∧ a = .fetchedTo (some v)) ∨ lastTo log j = some (some v) := by
  by_cases hij : i = j
  · subst hij
    cases a with
    | fetchedTo t =>
      obtain rfl : t = some v := by simpa using hv
      exact .inl ⟨rfl, rfl⟩
    | _ => exact .inr ((newest_cons_of_none rfl i i log).symm.trans hv)
  · exact .inr ((newest_cons_of_ne _ hij a log).symm.trans hv)

/-! ### The invariant -/

/-- What a history of runs that do not overlap records. -/
structure Sequential (sys : System ι σ β) (initial : Text → Option Text) (dagId : Text)
    (log : List (ι × Action σ β)) (ran : List ι) : Prop where
  /-- The tasks are in order. -/
  ordered : WellOrdered sys log
  /-- Every run starts once. -/
  nodup : ran.Nodup
  /-- Only these runs have acted. -/
  acted : ∀ entry ∈ log, entry.1 ∈ ran
  /-- The row of the DAG is what the runs have left behind. -/
  stored_eq : (sys.stored initial log dagId).map parseText = carried (initial dagId) log ran
  /-- A run fetches what the earlier runs have left behind. -/
  from_eq : ∀ later i earlier, ran = later ++ i :: earlier →
    ∀ f, lastFrom log i = some f → f = carried (initial dagId) log earlier
  /-- Runs report their values in their order. -/
  reports : ∀ later i earlier, ran = later ++ i :: earlier → ∀ j ∈ earlier, ∀ v w,
    lastTo log i = some (some v) → lastTo log j = some (some w) →
    ∃ newer older, reportedIn log = newer ++ v :: older ∧ w ∈ older

/-- Nothing has happened before the first run. -/
theorem sequential_nil (sys : System ι σ β) (initial : Text → Option Text) (dagId : Text) :
    Sequential sys initial dagId [] [] where
  ordered := wellOrdered_nil sys
  nodup := List.nodup_nil
  acted _ hmem := absurd hmem List.not_mem_nil
  stored_eq := rfl
  from_eq later i earlier hran := by simp at hran
  reports later i earlier hran := by simp at hran

/-- A run that has not acted fetched nothing. -/
theorem lastFrom_eq_none (h : ∀ entry ∈ log, entry.1 ≠ i) : lastFrom log i = none := by
  cases hfrom : lastFrom log i with
  | none => rfl
  | some f =>
    obtain ⟨a, hmem, -⟩ := exists_mem_of_newest hfrom
    exact absurd rfl (h _ hmem)

/-- A run that has not acted computed nothing. -/
theorem lastTo_eq_none (h : ∀ entry ∈ log, entry.1 ≠ i) : lastTo log i = none := by
  cases hto : lastTo log i with
  | none => rfl
  | some t =>
    obtain ⟨a, hmem, -⟩ := exists_mem_of_newest hto
    exact absurd rfl (h _ hmem)

omit [DecidableEq ι] in
/-- A list with a new first element splits at this element or behind it. -/
theorem split_cons {later : List ι} (h : j :: ran = later ++ i :: earlier) :
    (i = j ∧ earlier = ran) ∨ ∃ later', ran = later' ++ i :: earlier := by
  cases later with
  | nil =>
    obtain ⟨rfl, rfl⟩ := List.cons.inj h
    exact .inl ⟨rfl, rfl⟩
  | cons k later => exact .inr ⟨later, (List.cons.inj h).2⟩

omit [DecidableEq ι] in
/-- The newest run is none of the earlier ones. -/
theorem notMem_earlier {later : List ι} (hnodup : (i :: ran).Nodup)
    (hran : i :: ran = later ++ j :: earlier) : i ∉ earlier := by
  have hi : i ∉ ran := (List.nodup_cons.mp hnodup).1
  rcases split_cons hran with ⟨-, rfl⟩ | ⟨later', rfl⟩
  · exact hi
  · exact fun hmem => hi (List.mem_append_right _ (List.mem_cons_of_mem _ hmem))

omit [DecidableEq ι] in
/-- All other runs are earlier than the newest one. -/
theorem earlier_eq {later : List ι} (hnodup : (i :: ran).Nodup)
    (hran : i :: ran = later ++ i :: earlier) : earlier = ran := by
  rcases split_cons hran with ⟨-, rfl⟩ | ⟨later', rfl⟩
  · rfl
  · exact absurd (List.mem_append_right _ List.mem_cons_self) (List.nodup_cons.mp hnodup).1

/-- A run starts. -/
theorem Sequential.start {dagId : Text} (h : Sequential sys initial dagId log ran) (hi : i ∉ ran) :
    Sequential sys initial dagId log (i :: ran) := by
  have hsilent : ∀ entry ∈ log, entry.1 ≠ i := by
    rintro entry hmem rfl
    exact hi (h.acted entry hmem)
  have hsaved : ¬ HasSaved log i := fun ⟨_, hmem⟩ => absurd rfl (hsilent _ hmem)
  exact {
    ordered := h.ordered
    nodup := List.nodup_cons.mpr ⟨hi, h.nodup⟩
    acted := fun entry hmem => List.mem_cons_of_mem _ (h.acted entry hmem)
    stored_eq := h.stored_eq.trans (carried_cons_of_not_saved hsaved).symm
    from_eq := fun later j earlier hran f hfrom => by
      rcases split_cons hran with ⟨rfl, rfl⟩ | ⟨later', hran⟩
      · simp [lastFrom_eq_none hsilent] at hfrom
      · exact h.from_eq later' j earlier hran f hfrom
    reports := fun later j earlier hran k hk v w hv hw => by
      rcases split_cons hran with ⟨rfl, rfl⟩ | ⟨later', hran⟩
      · simp [lastTo_eq_none hsilent] at hv
      · exact h.reports later' j earlier hran k hk v w hv hw }

/-- The newest run acts. -/
theorem Sequential.act {dagId : Text} (h : Sequential sys initial dagId log (i :: ran))
    (hdag : (sys.dag i).dagId = dagId) (hallowed : sys.Allowed initial source log i a) :
    Sequential sys initial dagId ((i, a) :: log) (i :: ran) := by
  have hi : i ∉ ran := (List.nodup_cons.mp h.nodup).1
  exact {
    ordered := h.ordered.cons hallowed
    nodup := h.nodup
    acted := fun entry hmem => by
      rcases List.mem_cons.mp hmem with rfl | hmem
      · exact List.mem_cons_self
      · exact h.acted entry hmem
    stored_eq := by
      by_cases ha : ∃ text, a = .saved text
      · obtain ⟨text, rfl⟩ := ha
        have hto := (h.ordered.cons hallowed).parseText_of_saved (i := i) List.mem_cons_self
        rw [carried_cons_of_saved ⟨text, List.mem_cons_self⟩, hto, System.stored_saved, hdag,
          Function.update_self]
        rfl
      · have hne : ∀ text, a ≠ .saved text := fun text heq => ha ⟨text, heq⟩
        have hsaved : HasSaved ((i, a) :: log) i ↔ HasSaved log i :=
          exists_congr fun text => by
            rw [did_cons, or_iff_right]
            exact fun heq => hne text heq.2
        rw [sys.stored_cons_of_ne initial i hne, h.stored_eq]
        by_cases hi' : HasSaved log i
        · obtain ⟨text, hmem⟩ := hi'
          have hinit := h.ordered.spark_init (h.ordered.saved_spark i text hmem)
          rw [carried_cons_of_saved ⟨text, hmem⟩, carried_cons_of_saved (hsaved.mpr ⟨text, hmem⟩),
            hallowed.lastTo_cons hinit]
        · rw [carried_cons_of_not_saved hi', carried_cons_of_not_saved (mt hsaved.mp hi'),
            carried_of_notMem hi]
    from_eq := fun later j earlier hran f hfrom => by
      rw [carried_of_notMem (notMem_earlier h.nodup hran)]
      rcases hallowed.lastFrom_cases hfrom with ⟨rfl, hopen, hrow⟩ | hfrom
      · have hsaved : ¬ HasSaved log j := fun ⟨text, hmem⟩ =>
          hopen (h.ordered.spark_init (h.ordered.saved_spark j text hmem))
        obtain rfl := earlier_eq h.nodup hran
        rw [← carried_cons_of_not_saved hsaved, ← h.stored_eq, ← hdag]
        revert hrow
        cases sys.stored initial log (sys.dag j).dagId with
        | none => exact fun hrow => (Except.ok.inj hrow).symm
        | some text => exact fun hrow => (Except.ok.inj hrow).symm
      · exact h.from_eq later j earlier hran f hfrom
    reports := fun later j earlier hran k hk v w hv hw => by
      have hne : i ≠ k := fun heq => notMem_earlier h.nodup hran (heq ▸ hk)
      have hw' : lastTo log k = some (some w) := (newest_cons_of_ne _ hne a log).symm.trans hw
      rcases lastTo_cons_cases hv with ⟨rfl, rfl⟩ | hv'
      · exact ⟨[], reportedIn log, reportedIn_fetchedTo log j v, mem_reportedIn_of_lastTo hw'⟩
      · obtain ⟨newer, older, heq, hmem⟩ := h.reports later j earlier hran k hk v w hv' hw'
        obtain ⟨added, hadded⟩ := reportedIn_suffix log i a
        exact ⟨added ++ newer, older, by rw [← hadded, heq, List.append_assoc], hmem⟩ }

/-- **Runs of one DAG that do not overlap are sequential.** -/
theorem System.sequential_of_exec {dagId : Text} (hdag : ∀ i, (sys.dag i).dagId = dagId)
    {store : Text → Option Text} {S : State ι σ β} {es : List (Event ι σ)}
    (h : exec sys.step (State.start sys source store) es = some S)
    (hwatch : exec nonOverlapping [] es = some ran) : Sequential sys store dagId S.log ran := by
  refine sys.sequential_invariant (fun _ log ran => Sequential sys store dagId log ran)
    (sequential_nil sys store dagId) (fun hinv _ => hinv) (fun hinv hi => hinv.start hi) ?_ h hwatch
  intro src log ran i a hinv hallowed
  exact hinv.act (hdag i) hallowed

end Monitor

end BatchIngestion
