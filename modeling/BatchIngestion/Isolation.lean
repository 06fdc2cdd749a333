import BatchIngestion.Library.Components
import BatchIngestion.SqlIngestion

/-!
# DAGs do not interfere

All runs of all DAGs share one table of checkpoints and one log, but a run touches only
the row of its own DAG. The runs of one DAG, with its row and their share of the log,
are a component of the system. A deployment is made of its DAGs in the sense of the
library: its executions are exactly the interleavings of executions of the single DAGs,
and what holds of one DAG holds of it in the midst of the others.
-/

namespace BatchIngestion

open Python Library

variable {ι σ β : Type}

/-- The runs of a DAG. -/
def System.RunsOf (sys : System ι σ β) (dagId : Text) : Type :=
  {i : ι // (sys.dag i).dagId = dagId}

/-- A run as a run of a DAG, if it is one. -/
def System.runOf? (sys : System ι σ β) (dagId : Text) (i : ι) : Option (sys.RunsOf dagId) :=
  if h : (sys.dag i).dagId = dagId then some ⟨i, h⟩ else none

/-- The system of the runs of one DAG. -/
def System.only (sys : System ι σ β) (dagId : Text) : System (sys.RunsOf dagId) σ β where
  dag i := sys.dag i.1
  info i := sys.info i.1
  moves := sys.moves

/-- The row of one DAG. -/
def rowOf (store : Text → Option Text) (dagId : Text) : Text → Option Text :=
  fun d => if d = dagId then store d else none

/-- What a DAG sees of the state: the sources, its row, its runs and what they did. -/
def System.view (sys : System ι σ β) (dagId : Text) (s : State ι σ β) :
    State (sys.RunsOf dagId) σ β where
  source := s.source
  store := rowOf s.store dagId
  runs i := s.runs i.1
  log := s.log.filterMap fun entry => (sys.runOf? dagId entry.1).map fun i => (i, entry.2)

/-- The part that a DAG has in an event: the changes of the sources and the turns of its
runs. -/
def System.turn (sys : System ι σ β) (dagId : Text) :
    Event ι σ → Option (Event (sys.RunsOf dagId) σ)
  | .source next => some (.source next)
  | .perform i outside => (sys.runOf? dagId i).map fun j => .perform j outside
  | .raise i error metricUp => (sys.runOf? dagId i).map fun j => .raise j error metricUp
  | .retry i => (sys.runOf? dagId i).map .retry
  | .next i => (sys.runOf? dagId i).map .next

/-- A run of the DAG. -/
theorem System.runOf?_eq_some {sys : System ι σ β} {dagId : Text} {i : ι}
    {j : sys.RunsOf dagId} (h : sys.runOf? dagId i = some j) : j.1 = i := by
  unfold runOf? at h
  split at h
  · obtain rfl := Option.some.inj h
    rfl
  · simp at h

/-- A run of the DAG counts as one. -/
@[simp] theorem System.runOf?_val (sys : System ι σ β) (dagId : Text) (j : sys.RunsOf dagId) :
    sys.runOf? dagId j.1 = some j :=
  dif_pos j.2

/-- A run of another DAG. -/
theorem System.runOf?_eq_none {sys : System ι σ β} {dagId : Text} {i : ι} :
    sys.runOf? dagId i = none ↔ (sys.dag i).dagId ≠ dagId := by
  unfold runOf?
  split <;> simp_all

/-- The row of the DAG itself. -/
@[simp] theorem rowOf_self (store : Text → Option Text) (dagId : Text) :
    rowOf store dagId dagId = store dagId :=
  if_pos rfl

/-- A save into the row of the DAG. -/
theorem rowOf_update_self (store : Text → Option Text) (dagId : Text) (row : Option Text) :
    rowOf (Function.update store dagId row) dagId =
      Function.update (rowOf store dagId) dagId row := by
  funext d
  by_cases h : d = dagId <;> simp [rowOf, h]

/-- A save into another row. -/
theorem rowOf_update_of_ne (store : Text → Option Text) {dagId d : Text} (h : d ≠ dagId)
    (row : Option Text) : rowOf (Function.update store d row) dagId = rowOf store dagId := by
  funext d'
  by_cases h' : d' = dagId
  · subst h'
    simp [rowOf, Function.update_of_ne h.symm]
  · simp [rowOf, h']

section View

variable [DecidableEq ι] {sys : System ι σ β} {dagId : Text}

instance : DecidableEq (sys.RunsOf dagId) :=
  inferInstanceAs (DecidableEq {i : ι // (sys.dag i).dagId = dagId})

/-! ### The turns of the DAG -/

/-- Replacing a run of the DAG. -/
theorem System.view_setRun (s : State ι σ β) (j : sys.RunsOf dagId) (run : Run β) :
    sys.view dagId (s.setRun j.1 run) = (sys.view dagId s).setRun j run := by
  have hruns : (fun i : sys.RunsOf dagId => Function.update s.runs j.1 run i.1) =
      Function.update (fun i : sys.RunsOf dagId => s.runs i.1) j run := by
    funext i
    by_cases h : i = j
    · subst h
      simp
    · have h' : i.1 ≠ j.1 := fun h' => h (Subtype.ext h')
      rw [Function.update_of_ne h', Function.update_of_ne h]
  simp only [view, State.setRun, hruns]

omit [DecidableEq ι] in
/-- An action of a run of the DAG. -/
theorem System.view_emit (s : State ι σ β) (j : sys.RunsOf dagId) (a : Option (Action σ β)) :
    sys.view dagId (s.emit j.1 a) = (sys.view dagId s).emit j a := by
  cases a with
  | none => rfl
  | some a => simp [view, State.emit]

omit [DecidableEq ι] in
/-- A save of the DAG. -/
theorem System.view_upsert (s : State ι σ β) (text : Option Text) :
    sys.view dagId (s.upsert dagId text) = (sys.view dagId s).upsert dagId text := by
  cases text with
  | none => rfl
  | some text => simp [view, State.upsert, rowOf_update_self]

/-- The failure of a run of the DAG. -/
theorem System.view_fail (s : State ι σ β) (j : sys.RunsOf dagId) (error : Text)
    (metricUp : Bool) :
    sys.view dagId (sys.fail s j.1 error metricUp) =
      (sys.only dagId).fail (sys.view dagId s) j error metricUp := by
  simp only [System.fail, view_emit, view_setRun]
  rfl

/-- A step of a run of the DAG. -/
theorem System.view_performStep (s : State ι σ β) (j : sys.RunsOf dagId) (outside : Outside)
    (step : Step) (rest : List Step) :
    sys.view dagId (sys.performStep s j.1 outside step rest) =
      (sys.only dagId).performStep (sys.view dagId s) j outside step rest := by
  have heffect : step.effect ((sys.only dagId).dag j) ((sys.only dagId).info j) outside
      (sys.view dagId s).source ((sys.view dagId s).store ((sys.only dagId).dag j).dagId)
      ((sys.view dagId s).runs j) =
      step.effect (sys.dag j.1) (sys.info j.1) outside s.source (s.store (sys.dag j.1).dagId)
        (s.runs j.1) := by
    change step.effect _ _ outside s.source (rowOf s.store dagId (sys.dag j.1).dagId) _ = _
    rw [j.2, rowOf_self]
    rfl
  cases h : step.effect (sys.dag j.1) (sys.info j.1) outside s.source
      (s.store (sys.dag j.1).dagId) (s.runs j.1) with
  | ok effect =>
    rw [System.performStep_of_ok h, System.performStep_of_ok (heffect.trans h), view_emit]
    change (sys.view dagId ((s.setRun j.1 _).upsert (sys.dag j.1).dagId _)).emit j _ =
      State.emit (State.upsert _ (sys.dag j.1).dagId _) j _
    rw [j.2, view_upsert, view_setRun]
  | error e =>
    rw [System.performStep_of_error h, System.performStep_of_error (heffect.trans h), view_fail]

/-- **An event of a run of the DAG** is the same event for the DAG alone. -/
theorem System.view_step (s : State ι σ β) {e : Event ι σ} {u : Event (sys.RunsOf dagId) σ}
    {j : sys.RunsOf dagId} (hactor : u.actor = some j) (hturn : sys.turn dagId e = some u) :
    (sys.only dagId).step (sys.view dagId s) u = (sys.step s e).map (sys.view dagId) := by
  cases e with
  | source next =>
    obtain rfl := Option.some.inj hturn
    simp [Event.actor] at hactor
  | perform i outside =>
    obtain ⟨j, hj, rfl⟩ := Option.map_eq_some_iff.mp hturn
    obtain rfl := System.runOf?_eq_some hj
    have hrun : (sys.view dagId s).runs j = s.runs j.1 := rfl
    simp only [System.step, hrun]
    split
    · rw [Option.map_some, view_performStep]
    · rfl
  | raise i error metricUp =>
    obtain ⟨j, hj, rfl⟩ := Option.map_eq_some_iff.mp hturn
    obtain rfl := System.runOf?_eq_some hj
    have hrun : (sys.view dagId s).runs j = s.runs j.1 := rfl
    simp only [System.step, hrun]
    split
    · rw [Option.map_some, view_fail]
    · rfl
  | retry i =>
    obtain ⟨j, hj, rfl⟩ := Option.map_eq_some_iff.mp hturn
    obtain rfl := System.runOf?_eq_some hj
    have hrun : (sys.view dagId s).runs j = s.runs j.1 := rfl
    simp only [System.step, hrun]
    split
    · rw [Option.map_some, view_setRun]
      rfl
    · rfl
  | next i =>
    obtain ⟨j, hj, rfl⟩ := Option.map_eq_some_iff.mp hturn
    obtain rfl := System.runOf?_eq_some hj
    have hrun : (sys.view dagId s).runs j = s.runs j.1 := rfl
    simp only [System.step, hrun]
    split
    · rw [Option.map_some, view_emit, view_setRun]
      rfl
    · rfl

/-! ### The turns of other DAGs -/

/-- Replacing a run of another DAG. -/
theorem System.view_setRun_of_ne (s : State ι σ β) {i : ι} (h : (sys.dag i).dagId ≠ dagId)
    (run : Run β) : sys.view dagId (s.setRun i run) = sys.view dagId s := by
  have hruns : (fun j : sys.RunsOf dagId => Function.update s.runs i run j.1) =
      fun j : sys.RunsOf dagId => s.runs j.1 := by
    funext j
    have hj : j.1 ≠ i := by
      rintro rfl
      exact h j.2
    exact Function.update_of_ne hj run s.runs
  simp only [view, State.setRun, hruns]

omit [DecidableEq ι] in
/-- An action of a run of another DAG. -/
theorem System.view_emit_of_ne (s : State ι σ β) {i : ι} (h : (sys.dag i).dagId ≠ dagId)
    (a : Option (Action σ β)) : sys.view dagId (s.emit i a) = sys.view dagId s := by
  cases a with
  | none => rfl
  | some a => simp [view, State.emit, System.runOf?_eq_none.mpr h]

omit [DecidableEq ι] in
/-- A save of another DAG. -/
theorem System.view_upsert_of_ne (s : State ι σ β) {d : Text} (h : d ≠ dagId)
    (text : Option Text) : sys.view dagId (s.upsert d text) = sys.view dagId s := by
  cases text with
  | none => rfl
  | some text => simp [view, State.upsert, rowOf_update_of_ne s.store h]

/-- The failure of a run of another DAG. -/
theorem System.view_fail_of_ne (s : State ι σ β) {i : ι} (h : (sys.dag i).dagId ≠ dagId)
    (error : Text) (metricUp : Bool) :
    sys.view dagId (sys.fail s i error metricUp) = sys.view dagId s := by
  simp only [System.fail, view_emit_of_ne _ h, view_setRun_of_ne _ h]

/-- **An event without a turn of the DAG** does not change what it sees. -/
theorem System.view_step_of_none {s t : State ι σ β} {e : Event ι σ} (hstep : sys.step s e = some t)
    (hturn : sys.turn dagId e = none) : sys.view dagId t = sys.view dagId s := by
  have hother : ∀ {i}, e.actor = some i → (sys.dag i).dagId ≠ dagId := by
    intro i hactor
    cases e with
    | source next => simp [Event.actor] at hactor
    | perform j | raise j | retry j | next j =>
      obtain rfl : j = i := Option.some.inj hactor
      exact System.runOf?_eq_none.mp (Option.map_eq_none_iff.mp hturn)
  cases System.transition_of_step hstep with
  | source hmoves => simp [turn] at hturn
  | performed hfailed htodo heffect =>
    rw [view_emit_of_ne _ (hother rfl), view_upsert_of_ne _ (hother rfl),
      view_setRun_of_ne _ (hother rfl)]
  | failed hactor => exact view_fail_of_ne _ (hother hactor) _ _
  | retried => exact view_setRun_of_ne _ (hother rfl) _
  | advanced htodo htask => rw [view_emit_of_ne _ (hother rfl), view_setRun_of_ne _ (hother rfl)]

/-! ### Components -/

omit [DecidableEq ι] in
/-- What the runs of the DAG have reported was reported. -/
theorem System.reportedIn_view (s : State ι σ β) :
    reportedIn (sys.view dagId s).log ⊆ reportedIn s.log := by
  intro v hv
  obtain ⟨j, hmem⟩ := mem_reportedIn.mp hv
  obtain ⟨⟨i, a⟩, hmem, h⟩ := List.mem_filterMap.mp hmem
  obtain ⟨k, -, heq⟩ := Option.map_eq_some_iff.mp h
  obtain ⟨-, rfl⟩ := Prod.mk.inj heq
  exact mem_reportedIn.mpr ⟨i, hmem⟩

omit [DecidableEq ι] in
/-- A turn of a run, or a change of the sources. -/
theorem System.turn_cases {e : Event ι σ} {u : Event (sys.RunsOf dagId) σ}
    (h : sys.turn dagId e = some u) :
    (∃ next, e = .source next ∧ u = .source next) ∨ ∃ j, u.actor = some j := by
  cases e with
  | source next => exact .inl ⟨next, rfl, (Option.some.inj h).symm⟩
  | perform i | raise i | retry i | next i =>
    obtain ⟨j, -, rfl⟩ := Option.map_eq_some_iff.mp h
    exact .inr ⟨j, rfl⟩

omit [DecidableEq ι] in
/-- A run has its turn in the DAG that it belongs to. -/
theorem System.exists_turn (sys : System ι σ β) {e : Event ι σ} {i : ι} (h : e.actor = some i) :
    ∃ u, sys.turn (sys.dag i).dagId e = some u ∧ u.actor = some ⟨i, rfl⟩ := by
  have hrun := sys.runOf?_val (sys.dag i).dagId ⟨i, rfl⟩
  cases e with
  | source next => simp [Event.actor] at h
  | perform j | raise j | retry j | next j =>
    obtain rfl : j = i := Option.some.inj h
    exact ⟨_, Option.map_eq_some_iff.mpr ⟨_, hrun, rfl⟩, rfl⟩

/-- A change of the sources. -/
theorem System.step_source_eq_some {s t : State ι σ β} {next : σ} :
    sys.step s (.source next) = some t ↔
      sys.moves (reportedIn s.log) s.source next = true ∧ { s with source := next } = t := by
  simp [System.step]

/-- A DAG takes part in the system when the environment makes no change that it would not
make if the runs had reported less. -/
theorem System.takesPart
    (hmoves : ∀ {vs ws src next}, ws ⊆ vs → sys.moves vs src next = true →
      sys.moves ws src next = true) (dagId : Text) :
    TakesPart sys.step (sys.only dagId).step (sys.view dagId) (sys.turn dagId) where
  takes {s e t u} hstep hturn := by
    rcases turn_cases hturn with ⟨next, rfl, rfl⟩ | ⟨j, hactor⟩
    · obtain ⟨hmove, rfl⟩ := step_source_eq_some.mp hstep
      exact step_source_eq_some.mpr ⟨hmoves (reportedIn_view s) hmove, rfl⟩
    · rw [view_step s hactor hturn, hstep]
      rfl
  keeps hstep hturn := view_step_of_none hstep hturn

/-- A system whose sources change independently of the runs is made of its DAGs. -/
theorem System.decomposes
    (hmoves : ∀ vs ws src next, sys.moves vs src next = sys.moves ws src next) :
    Decomposes sys.step (fun dagId => (sys.only dagId).step) sys.view sys.turn where
  takesPart dagId := System.takesPart (fun _ h => (hmoves _ _ _ _).trans h) dagId
  enabled {s e} h := by
    cases hactor : e.actor with
    | none =>
      obtain ⟨next, rfl⟩ : ∃ next, e = .source next := by
        cases e with
        | source next => exact ⟨next, rfl⟩
        | perform | raise | retry | next => simp [Event.actor] at hactor
      obtain ⟨t, ht⟩ := Option.isSome_iff_exists.mp (h [] (.source next) rfl)
      have hmove : sys.moves (reportedIn s.log) s.source next = true :=
        (hmoves _ _ _ _).trans (step_source_eq_some.mp ht).1
      rw [step_source_eq_some.mpr ⟨hmove, rfl⟩]
      rfl
    | some i =>
      obtain ⟨u, hturn, hactor⟩ := sys.exists_turn hactor
      have hstep := h (sys.dag i).dagId u hturn
      rw [view_step s hactor hturn, Option.isSome_map] at hstep
      exact hstep

end View

/-! ### Deployments -/

section Deployment

variable [DecidableEq ι]

/-- **The executions of a deployment are the interleavings of executions of its DAGs.** The
sources change as they like, and the runs of any number of DAGs interleave. A list of events
can be executed exactly if every DAG alone can execute its turns in it, and then each DAG sees
what it would see without the others. -/
theorem deployment_decomposes (dagId : ι → Text) (source : ι → Source σ β) (info : ι → RunInfo)
    (changes : σ → σ → Bool) (s : State ι σ β) (es : List (Event ι σ)) :
    let sys := DagFactory.dags dagId source info fun _ => changes
    ((exec sys.step s es).isSome ↔
      ∀ d, (exec (sys.only d).step (sys.view d s) (es.filterMap (sys.turn d))).isSome) ∧
    ∀ S, exec sys.step s es = some S →
      ∀ d, exec (sys.only d).step (sys.view d s) (es.filterMap (sys.turn d)) =
        some (sys.view d S) := by
  intro sys
  have hparts : Decomposes sys.step (fun d => (sys.only d).step) sys.view sys.turn :=
    System.decomposes fun _ _ _ _ => rfl
  exact ⟨hparts.exec_isSome_iff, fun S h d => (hparts.takesPart d).exec h⟩

omit [DecidableEq ι] in
/-- The runs of one DAG of a deployment whose sources go with the DAGs. -/
theorem System.only_dags (dagId : ι → Text) (source : Text → Source σ β) (info : ι → RunInfo)
    (moves : List CheckpointValue → σ → σ → Bool) (d : Text) :
    (DagFactory.dags dagId (fun i => source (dagId i)) info moves).only d =
      DagFactory.oneDag d (source d) (fun i => info i.1) moves := by
  have hdag : (fun i : (DagFactory.dags dagId (fun i => source (dagId i)) info moves).RunsOf d =>
      DagFactory.makeDag (dagId i.1) (source (dagId i.1))) =
      fun _ => DagFactory.makeDag d (source d) := by
    funext i
    have hi : dagId i.1 = d := i.2
    rw [hi]
  exact congrArg (fun dag => System.mk dag (fun i => info i.1) moves) hdag

variable {kind : ColumnKind} {dagId : ι → Text} {source : Text → Source (Table kind) (List Row)}
  {info : ι → RunInfo} {table : Table kind} {store : Text → Option Text}
  {es : List (Event ι (Table kind))} {S : State ι (Table kind) (List Row)}

omit [DecidableEq ι] in
/-- What has landed in the view of a DAG has landed. -/
theorem System.complete_of_view {sys : System ι (Table kind) (List Row)} {d : Text}
    (h : (sys.view d S).Complete d) : S.Complete d := by
  intro text htext
  obtain ⟨w, hheld, hparse, hcovered⟩ := h text ((rowOf_self S.store d).trans htext)
  refine ⟨w, hheld, hparse, fun row hrow hle => ?_⟩
  obtain ⟨j, b, hlanded, hmem⟩ := hcovered row hrow hle
  obtain ⟨⟨i, a⟩, hentry, h⟩ := List.mem_filterMap.mp hlanded
  obtain ⟨k, -, heq⟩ := Option.map_eq_some_iff.mp h
  obtain ⟨-, rfl⟩ := Prod.mk.inj heq
  exact ⟨i, b, hentry, hmem⟩

/-- A DAG skips no row in the midst of other DAGs if its source reports the maximum of the table
and every read is complete in its window. -/
theorem State.complete_of_dags {d : Text} (hmaximum : (source d).ReportsMaximum)
    (hreads : ∀ (κ : Type) [DecidableEq κ] (table : Table kind)
      (log : List (κ × Action (Table kind) (List Row))) (i : κ),
      ReadsWindow kind (source d) table log i)
    (hstore : store d = none)
    (h : exec (DagFactory.dags dagId (fun i => source (dagId i)) info Table.inserts).step
      (State.start (DagFactory.dags dagId (fun i => source (dagId i)) info Table.inserts)
        table store) es = some S) :
    S.Complete d := by
  set sys := DagFactory.dags dagId (fun i => source (dagId i)) info Table.inserts with hsys
  have hpart : TakesPart sys.step (sys.only d).step (sys.view d) (sys.turn d) :=
    System.takesPart (fun hsub hmoves => Table.inserts_iff.mpr fun row hrow =>
      (Table.inserts_iff.mp hmoves row hrow).imp_right fun hexceeds v hv =>
        hexceeds v (hsub hv)) d
  have hexec := hpart.exec h
  have hone : sys.only d = DagFactory.oneDag d (source d) (fun i => info i.1) Table.inserts :=
    System.only_dags dagId source info Table.inserts d
  have hstart : sys.view d (State.start sys table store) =
      State.start (sys.only d) table (rowOf store d) := rfl
  rw [hstart, hone] at hexec
  exact System.complete_of_view (State.complete_of_evaluatesWindow hmaximum
    ((rowOf_self store d).trans hstore)
    (along_of_forall fun _ _ i _ => hreads _ _ _ i) hexec)

/-- **A SQL DAG skips no row in the midst of other DAGs.** Runs of any number of DAGs with any
sources share a table and the store, and interleave arbitrarily. If a DAG reads the table
incrementally and has no stored checkpoint in the beginning, then in every reachable state
every present row up to its stored checkpoint has landed. -/
theorem sqlDags_complete {readType : ReadAdapterType} {cfg : TableSourceConfig}
    {countRecords : Bool} {custom : Text → List Row → Except PyExc (List Row)} {d : Text}
    (hsource : source d = sqlSource readType cfg countRecords custom)
    (hread : readType = .sql ∨ readType = .mysql) (hcfg : cfg.Incremental)
    (hkind : kind ≠ .aware) (hstore : store d = none)
    (h : exec (DagFactory.dags dagId (fun i => source (dagId i)) info Table.inserts).step
      (State.start (DagFactory.dags dagId (fun i => source (dagId i)) info Table.inserts)
        table store) es = some S) :
    S.Complete d := by
  refine State.complete_of_dags ?_ (fun κ _ table log i => ?_) hstore h
  · rw [hsource]
    exact reportsMaximum_sqlSource hcfg hread
  · rw [hsource]
    exact readsWindow_sqlSource hcfg hkind table log i

/-- A DAG `archive` that reads the same table in full, and the DAG `orders`. -/
def ordersAndArchive (d : Text) : Source (Table .integer) (List Row) :=
  if d = "orders".toList then ordersSource
  else sqlSource .sql { ordersById with checkpointColumn := none } true
    fun _ _ => .error (.external "no custom query")

/-- Runs of both DAGs: the odd ones are those of `orders`. -/
def archivedOrders : System ℕ (Table .integer) (List Row) :=
  DagFactory.dags (fun i => if i % 2 = 1 then "orders".toList else "archive".toList)
    (fun i => ordersAndArchive (if i % 2 = 1 then "orders".toList else "archive".toList))
    (fun _ => ⟨[], [], []⟩) Table.inserts

/-- The init task of an archiving run comes between two runs that land both orders. -/
theorem archivedOrders_complete :
    ∃ S, exec archivedOrders.step
        (State.start archivedOrders (Table.ofInts [7]) fun _ => none)
        (ordersSource.uneventful 1 .up ++ List.replicate 9 (.perform 2 .up) ++
          [.source (Table.ofInts [7, 12])] ++ ordersSource.uneventful 3 .up) = some S ∧
      S.store "orders".toList = some "12".toList ∧ S.Complete "orders".toList := by
  have hstored : ((exec archivedOrders.step
      (State.start archivedOrders (Table.ofInts [7]) fun _ => none)
      (ordersSource.uneventful 1 .up ++ List.replicate 9 (.perform 2 .up) ++
        [.source (Table.ofInts [7, 12])] ++ ordersSource.uneventful 3 .up)).bind fun S =>
      S.store "orders".toList) = some "12".toList := by decide +kernel
  obtain ⟨S, hS, htext⟩ := Option.bind_eq_some_iff.mp hstored
  have hsource : ordersAndArchive "orders".toList = ordersSource := if_pos rfl
  exact ⟨S, hS, htext,
    sqlDags_complete hsource (.inl rfl) incremental_ordersById (by decide) rfl hS⟩

end Deployment

end BatchIngestion
