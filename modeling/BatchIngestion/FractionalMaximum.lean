import BatchIngestion.History
import BatchIngestion.Refinement
import BatchIngestion.SqlAdapter
import Mathlib.Data.Rat.Floor

/-!
# Fractional maxima

A numeric column has a rational maximum, which `int(...)` rounds towards zero. The checkpoint is
therefore at most the maximum exactly when the maximum is not a negative fraction. Then no row
inserted above every maximum seen so far lies at or below a saved checkpoint, in any run.
-/

namespace BatchIngestion

open Python Library

/-! ### Rounding towards zero -/

/-- `int(x)` of a finite number. -/
def truncate (x : ℚ) : ℤ := x.num.tdiv x.den

/-- `_parse_checkpoint` of a finite number. -/
theorem parseCheckpoint_number (x : ℚ) :
    parseCheckpoint (.number x) = .ok (some (.int (truncate x))) := rfl

/-- A number that is no negative fraction: nonnegative or an integer. -/
def NoNegativeFraction (x : ℚ) : Prop := 0 ≤ x ∨ x.den = 1

instance (x : ℚ) : Decidable (NoNegativeFraction x) := inferInstanceAs (Decidable (_ ∨ _))

/-- Only a number with denominator one has a numerator that its denominator divides. -/
theorem den_dvd_num_iff (x : ℚ) : (x.den : ℤ) ∣ x.num ↔ x.den = 1 := by
  constructor
  · intro h
    exact x.reduced.symm.eq_one_of_dvd (Int.natCast_dvd.mp h)
  · intro h
    rw [h]
    exact one_dvd _

/-- Rounding towards zero is rounding down, except for a negative fraction. -/
theorem truncate_eq (x : ℚ) : truncate x = ⌊x⌋ + if NoNegativeFraction x then 0 else 1 := by
  have hden : (0 : ℤ) < x.den := by exact_mod_cast x.den_pos
  have hiff : (0 ≤ x.num ∨ (x.den : ℤ) ∣ x.num) ↔ NoNegativeFraction x := by
    rw [NoNegativeFraction, den_dvd_num_iff, Rat.num_nonneg]
  rw [truncate, Int.tdiv_eq_ediv, Int.sign_eq_one_of_pos hden, Rat.floor_def',
    if_congr hiff rfl rfl]

/-- **Rounding towards zero gives the integer part exactly when it is no negative fraction.** -/
theorem truncate_le_iff (x : ℚ) :
    ((truncate x : ℚ) ≤ x ∧ x < truncate x + 1) ↔ NoNegativeFraction x := by
  rw [← Int.floor_eq_iff, truncate_eq]
  split
  · rename_i h
    simp [h]
  · rename_i h
    simp [h]

/-! ### Numeric columns -/

/-- A row version with a numeric checkpoint column. -/
structure NumericRow where
  /-- The contents. -/
  version : ℕ
  /-- The value of the checkpoint column. -/
  value : ℚ
  deriving DecidableEq

/-- The rows of a table with a numeric checkpoint column. -/
abbrev NumericTable := List NumericRow

/-- `MAX(checkpoint_column)`; `NULL` for an empty table. -/
def NumericTable.maximum (table : NumericTable) : Option ℚ := (table.map NumericRow.value).max?

/-- The `WHERE` clause on one row: the guard and the two bounds. A bound that is no number makes
the server raise. -/
def numericClause (low high : SqlLiteral) (row : NumericRow) : Option Bool :=
  match low, high with
  | .number low, .number high =>
    some (decide (low < high) && decide ((low : ℚ) < row.value) && decide (row.value ≤ high))
  | _, _ => none

/-- The rows of a query. How the server evaluates a custom query is a parameter. -/
def ReadQuery.evalNumeric (custom : Text → NumericTable → Except PyExc (List NumericRow))
    (table : NumericTable) : ReadQuery → Except PyExc (List NumericRow)
  | .custom query => custom query table
  | .table schema _ =>
    if schema = [] then .error (.external "syntax error at or near \".\"") else .ok table
  | .window schema _ _ fromVal toVal =>
    if schema = [] then .error (.external "syntax error at or near \".\"")
    else
      match SqlLiteral.ofText fromVal, SqlLiteral.ofText toVal with
      | some low, some high =>
        if table.all fun row => (numericClause low high row).isSome then
          .ok (table.filter fun row => numericClause low high row = some true)
        else .error (.external "invalid input syntax for type numeric")
      | _, _ => .error (.external "syntax error")

/-- The DataFrame of `SQLAdapter.read`, evaluated on a numeric table. -/
def numericRead (cfg : TableSourceConfig)
    (custom : Text → NumericTable → Except PyExc (List NumericRow)) (table : NumericTable)
    (checkpointFrom checkpointTo : Option CheckpointValue) : Except PyExc (List NumericRow) := do
  let query ← buildReadQuery cfg checkpointFrom checkpointTo
  let query ← effectiveQuery cfg query
  query.evalNumeric custom table

/-- The server of a numeric table answers the statement of `_max_sql`. -/
def numericNative (cfg : TableSourceConfig) (table : NumericTable) : Native :=
  { Native.down with
    selectMax := fun statement =>
      if statement = InitOperator.maxSqlStatement cfg (cfg.checkpointColumn.getD []) then
        .ok (some (table.maximum.elim .none .number))
      else .error (.external "relation does not exist") }

/-- A SQL or MySQL source with a numeric checkpoint column. -/
def numericSource (readType : ReadAdapterType) (cfg : TableSourceConfig) (countRecords : Bool)
    (custom : Text → NumericTable → Except PyExc (List NumericRow)) :
    Source NumericTable (List NumericRow) where
  readType := readType
  config := .table cfg
  countRecords := countRecords
  native := numericNative cfg
  read := numericRead cfg custom
  copied _ := []
  size := List.length

section Source

variable {cfg : TableSourceConfig} {readType : ReadAdapterType} {table : NumericTable}
  {custom : Text → NumericTable → Except PyExc (List NumericRow)} {batch : List NumericRow}

/-- A `checkpoint_to` that the init task computes is the rounded maximum. -/
theorem fetchCheckpointTo_numericNative (hread : readType = .sql ∨ readType = .mysql)
    {v : CheckpointValue}
    (h : InitOperator.fetchCheckpointTo readType (.table cfg) (numericNative cfg table) = some v) :
    ∃ x, table.maximum = some x ∧ v = .int (truncate x) := by
  have hmax : InitOperator.maxSql cfg (numericNative cfg table) (cfg.checkpointColumn.getD []) =
      .ok (table.maximum.map fun x => .int (truncate x)) := by
    simp only [InitOperator.maxSql, numericNative, if_true, ok_bind, InitOperator.parseRow]
    cases table.maximum <;> rfl
  have hkafka : readType ≠ .kafka := by rcases hread with rfl | rfl <;> decide
  cases hcolumn : cfg.checkpointColumn with
  | none =>
    simp [InitOperator.fetchCheckpointTo, SourceConfig.checkpointColumn, hcolumn, hkafka] at h
  | some column =>
    cases column with
    | nil =>
      simp [InitOperator.fetchCheckpointTo, SourceConfig.checkpointColumn, hcolumn, hkafka] at h
    | cons c column =>
      rw [hcolumn, Option.getD_some] at hmax
      have hv : table.maximum.map (fun x => CheckpointValue.int (truncate x)) = some v := by
        rw [← h]
        rcases hread with rfl | rfl <;>
          simp [InitOperator.fetchCheckpointTo, SourceConfig.checkpointColumn, hcolumn,
            InitOperator.nativeMax, hmax, InitOperator.swallow]
      obtain ⟨x, hx, rfl⟩ := Option.map_eq_some_iff.mp hv
      exact ⟨x, hx, rfl⟩

/-- **A row above the lower bound is excluded by the upper bound only.** -/
theorem mem_numericRead (hcfg : cfg.Incremental) {low high : ℤ} {row : NumericRow}
    (hrow : row ∈ table) (hlow : (low : ℚ) < row.value) (hhigh : row.value ≤ high)
    (h : numericRead cfg custom table (some (.int low)) (some (.int high)) = .ok batch) :
    row ∈ batch := by
  have hguard : low < high := by exact_mod_cast hlow.trans_le hhigh
  obtain ⟨c, column, hcolumn⟩ := List.exists_cons_of_ne_nil hcfg.column
  unfold numericRead buildReadQuery at h
  simp only [hcfg.no_query, hcolumn] at h
  obtain ⟨query, hquery, h⟩ := bind_eq_ok_iff.mp h
  obtain ⟨fromVal, hfrom, hquery⟩ := bind_eq_ok_iff.mp hquery
  obtain ⟨toVal, hto, hquery⟩ := bind_eq_ok_iff.mp hquery
  obtain rfl := Except.ok.inj hquery
  have hlowText : SqlLiteral.ofText fromVal = some (.number low) :=
    SqlLiteral.ofText_formatCheckpoint (v := .int low) hfrom
  have hhighText : SqlLiteral.ofText toVal = some (.number high) :=
    SqlLiteral.ofText_formatCheckpoint (v := .int high) hto
  rw [hcfg.effectiveQuery_eq, ok_bind] at h
  simp only [ReadQuery.evalNumeric, hlowText, hhighText] at h
  split at h
  · cases h
  · split at h
    · obtain rfl := Except.ok.inj h
      simp [hrow, numericClause, hguard, hlow, hhigh]
    · cases h

end Source

/-! ### Watched runs -/

/-- What happened to the table, beside what the runs did: which maxima were answered and which
rows were inserted. -/
inductive TableEntry (ι : Type)
  /-- A run asked for the maximum; a server that is down answers nothing. -/
  | queried (i : ι) (maximum : Option ℚ)
  /-- A row was inserted. -/
  | inserted (row : NumericRow)
  deriving DecidableEq

variable {ι : Type}

/-- The maxima seen so far. -/
def seenMaxima (history : List (TableEntry ι)) : List ℚ :=
  history.filterMap fun entry =>
    match entry with
    | .queried _ maximum => maximum
    | .inserted _ => none

/-- What an event does to the table. A row that occurs once more is inserted once more. -/
def tableEntries (s : State ι NumericTable (List NumericRow)) :
    Event ι NumericTable → List (TableEntry ι)
  | .source next => (next.diff s.source).map .inserted
  | .perform i outside =>
    match (s.runs i).failed, (s.runs i).todo with
    | false, .fetchCheckpointTo :: _ =>
      [.queried i (if outside.sourceUp then s.source.maximum else none)]
    | _, _ => []
  | _ => []

/-- A state with the history of its table, newest entry first. -/
structure Watched (ι : Type) where
  /-- The state. -/
  state : State ι NumericTable (List NumericRow)
  /-- The history. -/
  history : List (TableEntry ι)

/-- Whether an entry inserts a row strictly above every maximum seen so far, or no row. -/
def TableEntry.isAbove (seen : List ℚ) : TableEntry ι → Bool
  | .inserted row => seen.all fun x => decide (x < row.value)
  | .queried _ _ => true

/-- The runs of DAGs over one numeric table. Its rows change in any way. -/
def numericDags (dagId : ι → Text) (source : Source NumericTable (List NumericRow))
    (info : ι → RunInfo) : System ι NumericTable (List NumericRow) :=
  DagFactory.dags dagId (fun _ => source) info fun _ _ _ => true

variable [DecidableEq ι]

/-- An event, where rows are inserted strictly above every maximum seen so far. -/
def watchedStep (sys : System ι NumericTable (List NumericRow)) (w : Watched ι)
    (e : Event ι NumericTable) : Option (Watched ι) :=
  let entries := tableEntries w.state e
  if entries.all (TableEntry.isAbove (seenMaxima w.history)) then
    (sys.step w.state e).map fun t => ⟨t, entries ++ w.history⟩
  else none

/-- The answer that a run got last when it asked for the maximum. -/
def lastQuery (history : List (TableEntry ι)) (i : ι) : Option (Option ℚ) :=
  history.findSome? fun entry =>
    match entry with
    | .queried j maximum => if j = i then some maximum else none
    | .inserted _ => none

/-- A maximum that an event is answered is no negative fraction. -/
def AsksSafely (w : Watched ι) (e : Event ι NumericTable) : Prop :=
  ∀ i x, .queried i (some x) ∈ tableEntries w.state e → NoNegativeFraction x

/-! ### What an event does -/

section Events

variable {readType : ReadAdapterType} {cfg : TableSourceConfig} {countRecords : Bool}
  {custom : Text → NumericTable → Except PyExc (List NumericRow)} {dagId : ι → Text}
  {info : ι → RunInfo} {store : Text → Option Text} {w w' : Watched ι}
  {s t : State ι NumericTable (List NumericRow)} {e : Event ι NumericTable} {i : ι}
  {outside : Outside} {rest : List Step}

omit [DecidableEq ι] in
/-- An event asks for the maximum and does nothing to the table, or inserts rows at most. -/
theorem tableEntries_cases (s : State ι NumericTable (List NumericRow))
    (e : Event ι NumericTable) :
    (∃ i outside rest, e = .perform i outside ∧ (s.runs i).failed = false ∧
      (s.runs i).todo = .fetchCheckpointTo :: rest ∧
      tableEntries s e = [.queried i (if outside.sourceUp then s.source.maximum else none)]) ∨
    (∀ i, ¬ s.Performs e i .fetchCheckpointTo) ∧
      ∀ entry ∈ tableEntries s e, ∃ row, entry = .inserted row := by
  cases e with
  | perform i outside =>
    by_cases hask : (s.runs i).failed = false ∧ ∃ rest, (s.runs i).todo = .fetchCheckpointTo :: rest
    · obtain ⟨hfailed, rest, htodo⟩ := hask
      exact .inl ⟨i, outside, rest, rfl, hfailed, htodo,
        by simp only [tableEntries, hfailed, htodo]⟩
    · refine .inr ⟨?_, ?_⟩
      · rintro j ⟨_, rest, heq, hfailed, htodo⟩
        cases heq
        exact hask ⟨hfailed, rest, htodo⟩
      · intro entry hentry
        simp only [tableEntries] at hentry
        split at hentry
        · rename_i rest hfailed htodo
          exact absurd ⟨hfailed, rest, htodo⟩ hask
        · cases hentry
  | source next =>
    refine .inr ⟨?_, ?_⟩
    · rintro j ⟨_, _, heq, -⟩
      cases heq
    · intro entry hentry
      obtain ⟨row, -, rfl⟩ := List.mem_map.mp hentry
      exact ⟨row, rfl⟩
  | raise | retry | next =>
    refine .inr ⟨?_, fun entry hentry => by cases hentry⟩
    rintro j ⟨_, _, heq, -⟩
    cases heq

/-- A run that asks for the maximum logs what it makes of the answer. -/
theorem log_of_fetchCheckpointTo {sys : System ι NumericTable (List NumericRow)}
    (hfailed : (s.runs i).failed = false) (htodo : (s.runs i).todo = .fetchCheckpointTo :: rest)
    (h : sys.step s (.perform i outside) = some t) :
    t.log = (i, .fetchedTo (InitOperator.fetchCheckpointTo (sys.dag i).source.readType
      (sys.dag i).source.config
      (if outside.sourceUp then (sys.dag i).source.native s.source else Native.down))) ::
        s.log := by
  simp only [System.step, hfailed, htodo] at h
  obtain rfl := Option.some.inj h
  rfl

/-- Nothing else changes the `checkpoint_to` of a run. -/
theorem lastTo_of_step {sys : System ι NumericTable (List NumericRow)}
    (hs : Simulates sys store s) (h : sys.step s e = some t)
    (hnot : ∀ i, ¬ s.Performs e i .fetchCheckpointTo) (j : ι) :
    lastTo t.log j = lastTo s.log j := by
  cases (sys.step_refines hs h).2 with
  | moved hevent hmoves hsource hlog => rw [hlog]
  | silent hactor hsource hlog => rw [hlog]
  | @acted k a hactor hsource hlog hallowed hperforms =>
    rw [hlog]
    refine newest_cons_of_none ?_ j k s.log
    cases a with
    | fetchedTo v =>
      rcases hperforms with hnil | ⟨step, hstep, hperforms⟩
      · cases hnil
      · obtain rfl := List.mem_singleton.mp hstep
        exact absurd hperforms (hnot k)
    | _ => rfl

/-! ### The invariant -/

/-- What holds of the table and the runs after watched events. -/
structure Watermarked (store : Text → Option Text) (sys : System ι NumericTable (List NumericRow))
    (w : Watched ι) : Prop where
  /-- The state agrees with its log. -/
  simulates : Simulates sys store w.state
  /-- A `checkpoint_to` is the rounded answer that its run got last. -/
  answered : ∀ i v, lastTo w.state.log i = some (some v) →
    ∃ x, lastQuery w.history i = some (some x) ∧ v = .int (truncate x)
  /-- The maxima seen are no negative fractions. -/
  safe : ∀ x ∈ seenMaxima w.history, NoNegativeFraction x
  /-- Rows were inserted above the maxima seen before. -/
  above : w.history.Pairwise fun newer older => ∀ row i x, newer = .inserted row →
    older = .queried i (some x) → x < row.value

/-- Inserted rows answer no run. -/
theorem lastQuery_of_inserted {entries history : List (TableEntry ι)}
    (h : ∀ entry ∈ entries, ∃ row, entry = .inserted row) (i : ι) :
    lastQuery (entries ++ history) i = lastQuery history i := by
  induction entries with
  | nil => rfl
  | cons entry entries ih =>
    obtain ⟨row, rfl⟩ := h entry List.mem_cons_self
    exact ih fun entry hentry => h entry (List.mem_cons_of_mem _ hentry)

omit [DecidableEq ι] in
/-- The maxima seen are those that were answered. -/
theorem mem_seenMaxima_iff {history : List (TableEntry ι)} {x : ℚ} :
    x ∈ seenMaxima history ↔ ∃ i, .queried i (some x) ∈ history := by
  rw [seenMaxima, List.mem_filterMap]
  constructor
  · rintro ⟨entry, hentry, hmaximum⟩
    cases entry with
    | queried i maximum =>
      cases hmaximum
      exact ⟨i, hentry⟩
    | inserted row => cases hmaximum
  · rintro ⟨i, hentry⟩
    exact ⟨_, hentry, rfl⟩

/-- At the start nothing has happened. -/
theorem watermarked_start {sys : System ι NumericTable (List NumericRow)} (table : NumericTable) :
    Watermarked store sys ⟨State.start sys table store, []⟩ where
  simulates := simulates_start sys table store
  answered i v h := by simp [lastTo, State.start] at h
  safe x hx := by simp [seenMaxima] at hx
  above := .nil

/-- The answer that a run gets is the one its `checkpoint_to` comes from. -/
theorem answered_of_query {sys : System ι NumericTable (List NumericRow)}
    (hsource : (sys.dag i).source = numericSource readType cfg countRecords custom)
    (hread : readType = .sql ∨ readType = .mysql) (hfailed : (s.runs i).failed = false)
    (htodo : (s.runs i).todo = .fetchCheckpointTo :: rest)
    (ht : sys.step s (.perform i outside) = some t) {v : CheckpointValue}
    (hv : lastTo t.log i = some (some v)) :
    ∃ x, (if outside.sourceUp then s.source.maximum else none) = some x ∧
      v = .int (truncate x) := by
  rw [log_of_fetchCheckpointTo hfailed htodo ht, hsource, lastTo, newest_cons, if_pos rfl,
    Action.to?, Option.some_or] at hv
  have hfetched := Option.some.inj hv
  cases hup : outside.sourceUp with
  | false =>
    rw [hup, if_neg Bool.false_ne_true, InitOperator.fetchCheckpointTo_down] at hfetched
    cases hfetched
  | true =>
    rw [hup, if_pos rfl] at hfetched
    rw [if_pos rfl]
    exact fetchCheckpointTo_numericNative hread hfetched

/-- After an event a `checkpoint_to` is the rounded answer that its run got last. -/
theorem Watermarked.answered_of_step {sys : System ι NumericTable (List NumericRow)}
    (hsource : ∀ i, (sys.dag i).source = numericSource readType cfg countRecords custom)
    (hread : readType = .sql ∨ readType = .mysql) (h : Watermarked store sys w)
    (ht : sys.step w.state e = some t) (j : ι) (v : CheckpointValue)
    (hv : lastTo t.log j = some (some v)) :
    ∃ x, lastQuery (tableEntries w.state e ++ w.history) j = some (some x) ∧
      v = .int (truncate x) := by
  rcases tableEntries_cases w.state e with
    ⟨i, outside, rest, rfl, hfailed, htodo, hentries⟩ | ⟨hnot, hinserted⟩
  · rw [hentries]
    by_cases hj : i = j
    · subst hj
      obtain ⟨x, hx, rfl⟩ := answered_of_query (hsource i) hread hfailed htodo ht hv
      exact ⟨x, by simp [lastQuery, hx], rfl⟩
    · rw [log_of_fetchCheckpointTo hfailed htodo ht, lastTo, newest_cons_of_ne _ hj] at hv
      obtain ⟨x, hx, rfl⟩ := h.answered j v hv
      exact ⟨x, by simpa [lastQuery, hj] using hx, rfl⟩
  · rw [lastQuery_of_inserted hinserted]
    exact h.answered j v ((lastTo_of_step h.simulates ht hnot j).symm.trans hv)

omit [DecidableEq ι] in
/-- No entry of one event inserts a row after a query. -/
theorem pairwise_tableEntries (s : State ι NumericTable (List NumericRow))
    (e : Event ι NumericTable) :
    (tableEntries s e).Pairwise fun newer older => ∀ row i x, newer = .inserted row →
      older = .queried i (some x) → x < row.value := by
  rcases tableEntries_cases s e with ⟨i, outside, rest, -, -, -, hentries⟩ | ⟨-, hinserted⟩
  · rw [hentries]
    exact List.pairwise_singleton ..
  · refine List.pairwise_of_forall_mem_list fun newer _ older holder row i x _ hquery => ?_
    obtain ⟨row', hrow'⟩ := hinserted older holder
    cases hrow'.symm.trans hquery

/-- **A watched event keeps the watermark.** -/
theorem Watermarked.step {sys : System ι NumericTable (List NumericRow)}
    (hsource : ∀ i, (sys.dag i).source = numericSource readType cfg countRecords custom)
    (hread : readType = .sql ∨ readType = .mysql) (h : Watermarked store sys w)
    (hsafe : AsksSafely w e) (hstep : watchedStep sys w e = some w') :
    Watermarked store sys w' := by
  rw [watchedStep] at hstep
  split at hstep
  swap
  · cases hstep
  rename_i hall
  obtain ⟨t, ht, rfl⟩ := Option.map_eq_some_iff.mp hstep
  refine ⟨(System.step_refines h.simulates ht).1, h.answered_of_step hsource hread ht,
    fun x hx => ?_, List.pairwise_append.mpr ⟨pairwise_tableEntries w.state e, h.above, ?_⟩⟩
  · obtain ⟨i, hentry⟩ := mem_seenMaxima_iff.mp hx
    rcases List.mem_append.mp hentry with hentry | hentry
    · exact hsafe i x hentry
    · exact h.safe x (mem_seenMaxima_iff.mpr ⟨i, hentry⟩)
  · rintro newer hnewer older holder row i x rfl rfl
    have hrow := List.all_eq_true.mp hall _ hnewer
    exact of_decide_eq_true (List.all_eq_true.mp hrow x (mem_seenMaxima_iff.mpr ⟨i, holder⟩))

/-- Watching changes nothing. -/
theorem exec_of_watched {sys : System ι NumericTable (List NumericRow)}
    {es : List (Event ι NumericTable)} (h : exec (watchedStep sys) w es = some w') :
    exec sys.step w.state es = some w'.state := by
  induction es generalizing w with
  | nil =>
    obtain rfl : w = w' := by simpa using h
    rfl
  | cons e es ih =>
    obtain ⟨u, hu, hrest⟩ := exec_cons_eq_some.mp h
    rw [watchedStep] at hu
    split at hu
    · obtain ⟨t, ht, rfl⟩ := Option.map_eq_some_iff.mp hu
      exact exec_cons_eq_some.mpr ⟨t, ht, ih hrest⟩
    · cases hu

/-- The last query of a run in a history that is split there. -/
theorem lastQuery_append {newer older : List (TableEntry ι)} {maximum : Option ℚ}
    (hnewer : ∀ m, .queried i m ∉ newer) :
    lastQuery (newer ++ .queried i maximum :: older) i = some maximum := by
  induction newer with
  | nil => simp [lastQuery]
  | cons entry newer ih =>
    have hrest := ih fun m hm => hnewer m (List.mem_cons_of_mem _ hm)
    cases entry with
    | queried j m =>
      have hj : j ≠ i := fun heq => hnewer m (heq ▸ List.mem_cons_self)
      simpa [lastQuery, hj] using hrest
    | inserted row => simpa [lastQuery] using hrest

end Events

/-! ### The result -/

/-- No row inserted after the last maximum query of a run lies at or below the checkpoint that
the run saves, and no window from that checkpoint excludes it from below. -/
def Watched.KeepsRows (w : Watched ι) (cfg : TableSourceConfig)
    (custom : Text → NumericTable → Except PyExc (List NumericRow)) : Prop :=
  ∀ i text, (i, .saved text) ∈ w.state.log → ∃ c : ℤ, parseText text = .int c ∧
    ∀ newer older maximum, w.history = newer ++ .queried i maximum :: older →
      (∀ m, .queried i m ∉ newer) → ∀ row, .inserted row ∈ newer →
        (c : ℚ) < row.value ∧ (cfg.Incremental → ∀ (table : NumericTable) (high : ℤ) batch,
          row ∈ table → row.value ≤ high →
          numericRead cfg custom table (some (parseText text)) (some (.int high)) = .ok batch →
          row ∈ batch)

/-- Rows inserted above the watermark are kept. -/
theorem Watermarked.keepsRows {sys : System ι NumericTable (List NumericRow)}
    {store : Text → Option Text} {w : Watched ι} (h : Watermarked store sys w)
    (hordered : WellOrdered sys w.state.log) (cfg : TableSourceConfig)
    (custom : Text → NumericTable → Except PyExc (List NumericRow)) : w.KeepsRows cfg custom := by
  intro i text hsaved
  obtain ⟨x, hx, hc⟩ := h.answered i _ (hordered.parseText_of_saved hsaved)
  refine ⟨truncate x, hc, fun newer older maximum hhistory hnewer row hrow => ?_⟩
  rw [hhistory, lastQuery_append hnewer] at hx
  obtain rfl := Option.some.inj hx
  have hseen : x ∈ seenMaxima w.history := mem_seenMaxima_iff.mpr ⟨i, by rw [hhistory]; simp⟩
  have hpairwise := h.above
  rw [hhistory] at hpairwise
  have hlt : x < row.value := (List.pairwise_append.mp hpairwise).2.2 _ hrow _ List.mem_cons_self
    row i x rfl rfl
  have hle : (truncate x : ℚ) < row.value :=
    ((truncate_le_iff x).mpr (h.safe x hseen)).1.trans_lt hlt
  refine ⟨hle, fun hcfg table high batch hmem hhigh hbatch => ?_⟩
  rw [hc] at hbatch
  exact mem_numericRead hcfg hmem hle hhigh hbatch

/-- **The checkpoint of a maximum** is its integer part exactly when the maximum is no negative
fraction. In runs that find no other maxima, no row is lost between two windows: rows are
inserted strictly above every maximum seen so far and may disappear, any number of runs of any
DAGs interleave, and every step may raise and be retried. -/
theorem fractionalMaximum_iff (x : ℚ) {readType : ReadAdapterType} {cfg : TableSourceConfig}
    {countRecords : Bool} {custom : Text → NumericTable → Except PyExc (List NumericRow)}
    {dagId : ι → Text} {info : ι → RunInfo} {table : NumericTable} {store : Text → Option Text}
    {es : List (Event ι NumericTable)} {w : Watched ι} :
    (∃ c : ℤ, parseCheckpoint (.number x) = .ok (some (.int c)) ∧
      (((c : ℚ) ≤ x ∧ x < c + 1) ↔ NoNegativeFraction x)) ∧
    (readType = .sql ∨ readType = .mysql →
      exec (watchedStep (numericDags dagId (numericSource readType cfg countRecords custom) info))
        ⟨State.start (numericDags dagId (numericSource readType cfg countRecords custom) info)
          table store, []⟩ es = some w →
      Along (watchedStep (numericDags dagId (numericSource readType cfg countRecords custom) info))
        AsksSafely
        ⟨State.start (numericDags dagId (numericSource readType cfg countRecords custom) info)
          table store, []⟩ es →
      w.KeepsRows cfg custom) := by
  refine ⟨⟨truncate x, parseCheckpoint_number x, truncate_le_iff x⟩, fun hread h hsafe => ?_⟩
  have hwatermarked := exec_invariant_along
    (fun hinv hcond hstep => Watermarked.step (fun _ => rfl) hread hinv hcond hstep)
    (watermarked_start table) hsafe h
  exact hwatermarked.keepsRows (System.wellOrdered_of_exec (exec_of_watched h)) cfg custom

/-- A table that is read by a numeric `id`. -/
def numericOrders : Source NumericTable (List NumericRow) :=
  numericSource .sql ordersById false fun _ _ => .error (.external "no custom query")

/-- The runs of the DAG `orders` over it, numbered. -/
def numericOrdersSystem : System ℕ NumericTable (List NumericRow) :=
  numericDags (fun _ => "orders".toList) numericOrders fun _ => ⟨[], [], []⟩

/-- A run in which nothing fails, and an insertion after its init task. -/
def insertionAfterInit (next : NumericTable) : List (Event ℕ NumericTable) :=
  let events := numericOrders.uneventful 1 .up
  events.take 10 ++ .source next :: events.drop 10

/-- A table with one row, before the first run. -/
def oneNumericOrder (value : ℚ) : Watched ℕ :=
  ⟨State.start numericOrdersSystem [⟨0, value⟩] fun _ => none, []⟩

/-- A maximum of 1.5 is saved as 1. -/
theorem fractionalMaximum_keepsRows_positive :
    ∃ w, exec (watchedStep numericOrdersSystem) (oneNumericOrder (3 / 2))
        (insertionAfterInit [⟨0, 3 / 2⟩, ⟨1, 17 / 10⟩]) = some w ∧
      w.state.store "orders".toList = some "1".toList ∧
      w.history = [.inserted ⟨1, 17 / 10⟩, .queried 1 (some (3 / 2))] ∧
      w.KeepsRows ordersById fun _ _ => .error (.external "no custom query") := by
  have hrun : ((exec (watchedStep numericOrdersSystem) (oneNumericOrder (3 / 2))
      (insertionAfterInit [⟨0, 3 / 2⟩, ⟨1, 17 / 10⟩])).map fun w =>
        (w.state.store "orders".toList, w.history)) =
      some (some "1".toList, [.inserted ⟨1, 17 / 10⟩, .queried 1 (some (3 / 2))]) := by
    decide +kernel
  have hchecked : checkAlong (watchedStep numericOrdersSystem)
      (fun w e => (seenMaxima (tableEntries w.state e)).all fun x => decide (NoNegativeFraction x))
      (oneNumericOrder (3 / 2)) (insertionAfterInit [⟨0, 3 / 2⟩, ⟨1, 17 / 10⟩]) = true := by
    decide +kernel
  have hsafe : Along (watchedStep numericOrdersSystem) AsksSafely (oneNumericOrder (3 / 2))
      (insertionAfterInit [⟨0, 3 / 2⟩, ⟨1, 17 / 10⟩]) :=
    along_of_checkAlong (fun w e hcheck i x hx =>
      of_decide_eq_true (List.all_eq_true.mp hcheck x (mem_seenMaxima_iff.mpr ⟨i, hx⟩))) hchecked
  obtain ⟨w, hw, heq⟩ := Option.map_eq_some_iff.mp hrun
  obtain ⟨hstore, hhistory⟩ := Prod.mk.inj heq
  exact ⟨w, hw, hstore, hhistory, (fractionalMaximum_iff (3 / 2)).2 (.inl rfl) hw hsafe⟩

/-- A maximum of -1.5 is saved as -1. A row inserted afterwards with -1.2 lies below that
checkpoint, although it lies above every maximum seen. -/
theorem not_keepsRows_negative :
    (¬ ∀ x : ℚ, ∃ c : ℤ, parseCheckpoint (.number x) = .ok (some (.int c)) ∧
      (c : ℚ) ≤ x ∧ x < c + 1) ∧
    ∃ w, exec (watchedStep numericOrdersSystem) (oneNumericOrder (-3 / 2))
        (insertionAfterInit [⟨0, -3 / 2⟩, ⟨1, -6 / 5⟩]) = some w ∧
      w.history = [.inserted ⟨1, -6 / 5⟩, .queried 1 (some (-3 / 2))] ∧
      w.state.store "orders".toList = some "-1".toList ∧
      ¬ w.KeepsRows ordersById fun _ _ => .error (.external "no custom query") := by
  constructor
  · intro h
    obtain ⟨c, hc, hle, -⟩ := h (-3 / 2)
    have hvalue : parseCheckpoint (.number (-3 / 2)) = .ok (some (.int (-1))) := by decide +kernel
    obtain rfl : (-1 : ℤ) = c := by simpa using hvalue.symm.trans hc
    norm_num at hle
  · have hrun : ((exec (watchedStep numericOrdersSystem) (oneNumericOrder (-3 / 2))
        (insertionAfterInit [⟨0, -3 / 2⟩, ⟨1, -6 / 5⟩])).map fun w =>
          (w.history, w.state.store "orders".toList,
            w.state.log.any fun entry => entry.1 = 1 ∧ entry.2.text? = some "-1".toList)) =
        some ([.inserted ⟨1, -6 / 5⟩, .queried 1 (some (-3 / 2))], some "-1".toList, true) := by
      decide +kernel
    obtain ⟨w, hw, heq⟩ := Option.map_eq_some_iff.mp hrun
    obtain ⟨hhistory, hrest⟩ := Prod.mk.inj heq
    obtain ⟨hstore, hlog⟩ := Prod.mk.inj hrest
    refine ⟨w, hw, hhistory, hstore, fun hkeeps => ?_⟩
    obtain ⟨⟨i, action⟩, hmem, hentry⟩ := List.any_eq_true.mp hlog
    obtain ⟨rfl, htext⟩ := of_decide_eq_true hentry
    obtain ⟨text, rfl⟩ : ∃ text, action = .saved text := by
      cases action with
      | saved text => exact ⟨text, rfl⟩
      | _ => cases htext
    obtain rfl := Option.some.inj htext
    obtain ⟨c, hc, hrows⟩ := hkeeps 1 _ hmem
    have hvalue : parseText "-1".toList = .int (-1) := by decide +kernel
    obtain rfl : (-1 : ℤ) = c := by simpa using hvalue.symm.trans hc
    obtain ⟨hlow, -⟩ := hrows [.inserted ⟨1, -6 / 5⟩] [] (some (-3 / 2)) hhistory (by simp)
      ⟨1, -6 / 5⟩ List.mem_cons_self
    norm_num at hlow

end BatchIngestion
