import BatchIngestion.Sequential
import BatchIngestion.SqlIngestion
import Mathlib.Data.Set.Lattice
import Mathlib.Order.CompletePartialOrder

/-!
# Sequential SQL runs read no row twice

The runs of a DAG that do not overlap read consecutive half-open windows of the
checkpoint column. Every row version has its place among the reported maxima: it is at
most what was reported since it appeared, and above what was reported before. A run
therefore reads only rows above everything that the runs before it have saved.
-/

namespace BatchIngestion

open Python Library

variable {ι : Type} {kind : ColumnKind}

/-- The row versions that a run has read. -/
def readBy (log : List (ι × Action (Table kind) (List Row))) (i : ι) : Set Row :=
  {row | ∃ table b, (i, .read table b) ∈ log ∧ row ∈ b}

/-- The rows of a table that rank above one value and at most as high as another one. -/
def Table.window (table : Table kind) (low high : ColumnValue) : List Row :=
  table.rows.filter fun row => low.rank < row.rank ∧ row.rank ≤ high.rank

variable [DecidableEq ι]

/-- The latest run that saved a checkpoint left it behind, and another run that saved one
ran before. -/
theorem carried_eq_of_hasSaved {σ β : Type} (init : Option Text) {log : List (ι × Action σ β)}
    {ran : List ι} {j : ι} (hj : j ∈ ran) (hsaved : HasSaved log j) :
    ∃ later p earlier, ran = later ++ p :: earlier ∧ carried init log ran = (lastTo log p).join ∧
      (p = j ∨ j ∈ earlier) := by
  cases hfind : ran.find? fun i => HasSaved log i with
  | none =>
    have hnone := List.find?_eq_none.mp hfind j hj
    exact absurd hsaved (by simpa using hnone)
  | some p =>
    obtain ⟨-, later, earlier, hran, hlater⟩ := List.find?_eq_some_iff_append.mp hfind
    refine ⟨later, p, earlier, hran, by rw [carried, hfind], ?_⟩
    rw [hran, List.mem_append, List.mem_cons] at hj
    rcases hj with hmem | rfl | hmem
    · exact absurd hsaved (by simpa using hlater j hmem)
    · exact .inl rfl
    · exact .inr hmem

/-! ### The invariant -/

/-- What the reads of runs that do not overlap have to do with each other. -/
structure ReadsOnce (sys : System ι (Table kind) (List Row)) (initial : Text → Option Text)
    (dagId : Text) (table : Table kind) (log : List (ι × Action (Table kind) (List Row)))
    (ran : List ι) : Prop where
  /-- The runs are sequential. -/
  sequential : Sequential sys initial dagId log ran
  /-- Only values of the column are reported. -/
  reported_held : ReportsHeld kind log
  /-- Every present row has its place among the reported maxima. -/
  placed : ∀ row ∈ table.rows, Placed ((reportedIn log).map CheckpointValue.rank) row.rank
  /-- A run with a checkpoint to read up to reads the window above what was left behind. -/
  window : ∀ later i earlier, ran = later ++ i :: earlier → ∀ source b,
    (i, .read source b) ∈ log → ∀ high : ColumnValue, lastTo log i = some (some high.checkpoint) →
    ∃ low : ColumnValue, carried (initial dagId) log earlier = some low.checkpoint ∧
      b = source.window low high
  /-- What such a run reads is above everything that the runs before it saved. -/
  above : ∀ later i earlier, ran = later ++ i :: earlier → ∀ source b,
    (i, .read source b) ∈ log → ∀ high : ColumnValue, lastTo log i = some (some high.checkpoint) →
    ∀ j ∈ earlier, HasSaved log j → ∀ v, lastTo log j = some (some v) → ∀ row ∈ b, v.rank < row.rank

section Steps

variable {sys : System ι (Table kind) (List Row)} {initial : Text → Option Text} {dagId : Text}
  {table next : Table kind} {log : List (ι × Action (Table kind) (List Row))} {ran : List ι}
  {i : ι} {a : Action (Table kind) (List Row)}

/-- Nothing is read before the first run. -/
theorem readsOnce_nil (table : Table kind) : ReadsOnce sys initial dagId table [] [] where
  sequential := sequential_nil sys initial dagId
  reported_held v hv := by simp [reportedIn] at hv
  placed row _ := placed_of_forall_lt (by simp [reportedIn])
  window later i earlier hran := by simp at hran
  above later i earlier hran := by simp at hran

/-- Insertions and deletions change nothing that was read. -/
theorem ReadsOnce.of_inserts (h : ReadsOnce sys initial dagId table log ran)
    (hinserts : Table.inserts (reportedIn log) table next = true) :
    ReadsOnce sys initial dagId next log ran where
  sequential := h.sequential
  reported_held := h.reported_held
  placed row hrow := by
    rcases Table.inserts_iff.mp hinserts row hrow with hrow | hexceeds
    · exact h.placed row hrow
    · refine placed_of_forall_lt fun n hn => ?_
      obtain ⟨v, hv, rfl⟩ := List.mem_map.mp hn
      exact ColumnValue.rank_lt_of_exceeds (hexceeds v hv)
  window := h.window
  above := h.above

/-- A run starts. -/
theorem ReadsOnce.start (h : ReadsOnce sys initial dagId table log ran) (hi : i ∉ ran) :
    ReadsOnce sys initial dagId table log (i :: ran) where
  sequential := h.sequential.start hi
  reported_held := h.reported_held
  placed := h.placed
  window later j earlier hran source b hread := by
    rcases split_cons hran with ⟨rfl, rfl⟩ | ⟨later', hran⟩
    · exact absurd (h.sequential.acted _ hread) hi
    · exact h.window later' j earlier hran source b hread
  above later j earlier hran source b hread := by
    rcases split_cons hran with ⟨rfl, rfl⟩ | ⟨later', hran⟩
    · exact absurd (h.sequential.acted _ hread) hi
    · exact h.above later' j earlier hran source b hread

/-- What the runs have left behind is a value of the column. -/
theorem ReadsOnce.carried_held (h : ReadsOnce sys initial dagId table log ran) {c : ColumnValue}
    (hc : kind.holds c = true) (hinitial : (initial dagId).map parseText = some c.checkpoint)
    (earlier : List ι) : ∃ low : ColumnValue, kind.holds low = true ∧
      carried (initial dagId) log earlier = some low.checkpoint := by
  rw [carried]
  split
  · rename_i p hp
    have hsaved : HasSaved log p := by simpa using List.find?_some hp
    obtain ⟨text, hmem⟩ := hsaved
    have hto := h.sequential.ordered.parseText_of_saved hmem
    obtain ⟨low, hlow, heq⟩ := h.reported_held _ (mem_reportedIn_of_lastTo hto)
    exact ⟨low, hlow, by rw [hto, heq]; rfl⟩
  · exact ⟨c, hc, hinitial⟩

/-- A present row above what the runs have left behind is above everything they saved. -/
theorem ReadsOnce.lt_of_carried (h : ReadsOnce sys initial dagId table log (i :: ran))
    {low : ColumnValue} (hlow : carried (initial dagId) log ran = some low.checkpoint) {row : Row}
    (hrow : row ∈ table.rows) (hlt : low.rank < row.rank) {j : ι} (hj : j ∈ ran)
    (hsaved : HasSaved log j) {v : CheckpointValue} (hv : lastTo log j = some (some v)) :
    v.rank < row.rank := by
  obtain ⟨later, p, earlier, hran, hcarried, hp⟩ :=
    carried_eq_of_hasSaved (initial dagId) hj hsaved
  have hto : lastTo log p = some (some low.checkpoint) :=
    Option.join_eq_some_iff.mp (hcarried.symm.trans hlow)
  rcases hp with rfl | hp
  · obtain rfl : low.checkpoint = v := Option.some.inj (Option.some.inj (hto.symm.trans hv))
    simpa using hlt
  · obtain ⟨newer, older, hreported, hmem⟩ := h.sequential.reports (i :: later) p earlier
      (by rw [hran, List.cons_append]) j hp low.checkpoint v hto hv
    have hplaced := h.placed row hrow
    rw [hreported, List.map_append, List.map_cons] at hplaced
    exact hplaced.lt_of_lt (by simpa using hlt) (List.mem_map_of_mem hmem)

/-- **The newest run acts**, and reads at most the window above what was left behind. -/
theorem ReadsOnce.act (h : ReadsOnce sys initial dagId table log (i :: ran))
    (hdag : (sys.dag i).dagId = dagId) (hsource : (sys.dag i).source.ReportsMaximum)
    (hreads : ∀ {low high : ColumnValue} {b}, kind.holds low = true → kind.holds high = true →
      (sys.dag i).source.read table (some low.checkpoint) (some high.checkpoint) = .ok b →
      b = table.window low high) {c : ColumnValue} (hc : kind.holds c = true)
    (hinitial : (initial dagId).map parseText = some c.checkpoint)
    (hallowed : sys.Allowed initial table log i a) :
    ReadsOnce sys initial dagId table ((i, a) :: log) (i :: ran) := by
  -- a new read is one of the newest run, of the window above what was left behind
  have hnew {source : Table kind} {b : List Row} (ha : a = .read source b) {high : ColumnValue}
      (hto : lastTo log i = some (some high.checkpoint)) :
      ∃ low : ColumnValue, carried (initial dagId) log ran = some low.checkpoint ∧
        source = table ∧ b = table.window low high := by
    subst ha
    cases hallowed with
    | @read f t _ hinit hfrom ht hread =>
      obtain ⟨low, hlow, hcarried⟩ := h.carried_held hc hinitial ran
      obtain rfl := (h.sequential.from_eq [] i ran rfl f hfrom).trans hcarried
      obtain rfl : t = some high.checkpoint := Option.some.inj (ht.symm.trans hto)
      obtain ⟨w, hw, heq⟩ := h.reported_held _ (mem_reportedIn_of_lastTo hto)
      obtain rfl := ColumnValue.checkpoint_injective heq
      exact ⟨low, hcarried, rfl, hreads hlow hw hread⟩
  exact {
    sequential := h.sequential.act hdag hallowed
    reported_held := h.reported_held.cons hsource hallowed
    placed := fun row hrow => by
      cases hallowed with
      | @fetchedTo t hopen hmax =>
        cases t with
        | none => exact h.placed row hrow
        | some v =>
          obtain ⟨m, hm, rfl⟩ := hsource.maximum (hmax.resolve_left (by simp)).symm
          refine (h.placed row hrow).report ?_
          rw [ColumnValue.rank_checkpoint]
          exact (Table.maximum_spec hm).2 row hrow
      | _ => exact h.placed row hrow
    window := fun later j earlier hran source b hmem high hto => by
      rw [carried_of_notMem (notMem_earlier h.sequential.nodup hran)]
      rw [hallowed.lastTo_cons (h.sequential.ordered.init_of_read hallowed hmem)] at hto
      rcases did_cons.mp hmem with ⟨rfl, ha⟩ | hmem
      · obtain ⟨low, hcarried, rfl, hb⟩ := hnew ha hto
        obtain rfl := earlier_eq h.sequential.nodup hran
        exact ⟨low, hcarried, hb⟩
      · exact h.window later j earlier hran source b hmem high hto
    above := fun later j earlier hran source b hmem high hto k hk hsaved v hv row hrow => by
      have hne : i ≠ k := fun heq => notMem_earlier h.sequential.nodup hran (heq ▸ hk)
      have hv' : lastTo log k = some (some v) := (newest_cons_of_ne _ hne a log).symm.trans hv
      have hsaved' : HasSaved log k := (hasSaved_cons_of_ne hne).mp hsaved
      rw [hallowed.lastTo_cons (h.sequential.ordered.init_of_read hallowed hmem)] at hto
      rcases did_cons.mp hmem with ⟨rfl, ha⟩ | hmem
      · obtain ⟨low, hcarried, rfl, rfl⟩ := hnew ha hto
        obtain rfl := earlier_eq h.sequential.nodup hran
        simp only [Table.window, List.mem_filter, decide_eq_true_eq] at hrow
        exact h.lt_of_carried hcarried hrow.1 hrow.2.1 hk hsaved' hv'
      · exact h.above later j earlier hran source b hmem high hto k hk hsaved' v hv' row hrow }

/-- A run that saved a checkpoint saved a value of the column. -/
theorem ReadsOnce.exists_high (h : ReadsOnce sys initial dagId table log ran)
    (hsaved : HasSaved log i) :
    ∃ high : ColumnValue, lastTo log i = some (some high.checkpoint) := by
  obtain ⟨text, hmem⟩ := hsaved
  have hto := h.sequential.ordered.parseText_of_saved hmem
  obtain ⟨high, -, heq⟩ := h.reported_held _ (mem_reportedIn_of_lastTo hto)
  exact ⟨high, heq ▸ hto⟩

/-- A run reads no row that an earlier run has read and saved. -/
theorem ReadsOnce.disjoint (h : ReadsOnce sys initial dagId table log ran) {later earlier : List ι}
    {j : ι} (hran : ran = later ++ i :: earlier) (hj : j ∈ earlier) (hi : HasSaved log i)
    (hsaved : HasSaved log j) : Disjoint (readBy log i) (readBy log j) := by
  obtain ⟨high, hto⟩ := h.exists_high hi
  obtain ⟨high', hto'⟩ := h.exists_high hsaved
  rw [Set.disjoint_left]
  rintro row ⟨source, b, hmem, hrow⟩ ⟨source', b', hmem', hrow'⟩
  have habove := h.above later i earlier hran source b hmem high hto j hj hsaved _ hto' row hrow
  obtain ⟨l, r, rfl⟩ := List.append_of_mem hj
  obtain ⟨low, -, rfl⟩ :=
    h.window (later ++ i :: l) j r (by simp [hran]) source' b' hmem' high' hto'
  simp only [Table.window, List.mem_filter, decide_eq_true_eq] at hrow'
  rw [ColumnValue.rank_checkpoint] at habove
  exact absurd hrow'.2.2 (not_le.mpr habove)

omit [DecidableEq ι] in
/-- One of two different runs is earlier than the other one. -/
theorem earlier_or_earlier {j : ι} (hi : i ∈ ran) (hj : j ∈ ran) (hne : i ≠ j) :
    (∃ later earlier, ran = later ++ i :: earlier ∧ j ∈ earlier) ∨
      ∃ later earlier, ran = later ++ j :: earlier ∧ i ∈ earlier := by
  obtain ⟨later, earlier, rfl⟩ := List.append_of_mem hi
  rw [List.mem_append, List.mem_cons] at hj
  rcases hj with hj | rfl | hj
  · obtain ⟨l, r, rfl⟩ := List.append_of_mem hj
    exact .inr ⟨l, r ++ i :: earlier, by simp, by simp⟩
  · exact absurd rfl hne
  · exact .inl ⟨later, earlier, rfl, hj⟩

end Steps

/-! ### Runs -/

/-- **Sequential runs read no row twice.** The runs of one DAG over a SQL source do not
overlap and start with a stored checkpoint; rows are inserted above everything that was
reported so far and may disappear; every step may raise and be retried, and maximum queries
may fail. The runs that saved their checkpoint have read disjoint sets of rows, and each of
them has read, whenever it read, exactly the rows above the checkpoint that was stored before
it and up to its own `checkpoint_to`. -/
theorem sqlIngestion_readsOnce {readType : ReadAdapterType} {cfg : TableSourceConfig}
    {countRecords : Bool} {custom : Text → List Row → Except PyExc (List Row)}
    (hread : readType = .sql ∨ readType = .mysql) (hcfg : cfg.Incremental) (hkind : kind ≠ .aware)
    {dagId : Text} {info : ι → RunInfo} {table : Table kind} {store : Text → Option Text}
    {c : ColumnValue} (hc : kind.holds c = true)
    (hstore : (store dagId).map parseText = some c.checkpoint)
    {es : List (Event ι (Table kind))} {S : State ι (Table kind) (List Row)} {ran : List ι}
    (h : exec (DagFactory.oneDag dagId (sqlSource readType cfg countRecords custom) info
        Table.inserts).step
      (State.start (DagFactory.oneDag dagId (sqlSource readType cfg countRecords custom) info
        Table.inserts) table store) es = some S)
    (hwatch : exec nonOverlapping [] es = some ran) :
    (∀ i j, i ≠ j → HasSaved S.log i → HasSaved S.log j →
      Disjoint (readBy S.log i) (readBy S.log j)) ∧
    ∀ later i earlier, ran = later ++ i :: earlier → HasSaved S.log i →
      ∃ low high : ColumnValue, carried (store dagId) S.log earlier = some low.checkpoint ∧
        lastTo S.log i = some (some high.checkpoint) ∧
        (∃ source b, (i, .read source b) ∈ S.log) ∧
        ∀ source b, (i, .read source b) ∈ S.log → b = source.window low high := by
  have hreads {table : Table kind} {low high : ColumnValue} {b : List Row}
      (hlow : kind.holds low = true) (hhigh : kind.holds high = true)
      (hb : sqlRead cfg custom table (some low.checkpoint) (some high.checkpoint) = .ok b) :
      b = table.window low high := sqlRead_window hcfg hkind hlow hhigh hb
  have hinv : ReadsOnce (DagFactory.oneDag dagId (sqlSource readType cfg countRecords custom) info
      Table.inserts) store dagId S.source S.log ran := by
    refine System.sequential_invariant
      (ReadsOnce (DagFactory.oneDag dagId (sqlSource readType cfg countRecords custom) info
        Table.inserts) store dagId) (readsOnce_nil table)
      (fun hinv hmoves => hinv.of_inserts hmoves) (fun hinv hi => hinv.start hi) ?_ h hwatch
    intro src log ran i a hinv hallowed
    exact hinv.act rfl (reportsMaximum_sqlSource hcfg hread) hreads hc hstore hallowed
  refine ⟨fun i j hne hi hj => ?_, fun later i earlier hran hi => ?_⟩
  · have hacted {i : ι} (hi : HasSaved S.log i) : i ∈ ran := by
      obtain ⟨text, hmem⟩ := hi
      exact hinv.sequential.acted _ hmem
    rcases earlier_or_earlier (hacted hi) (hacted hj) hne with
      ⟨later, earlier, hran, hmem⟩ | ⟨later, earlier, hran, hmem⟩
    · exact hinv.disjoint hran hmem hi hj
    · exact (hinv.disjoint hran hmem hj hi).symm
  · obtain ⟨high, hto⟩ := hinv.exists_high hi
    obtain ⟨low, -, hcarried⟩ := hinv.carried_held hc hstore earlier
    obtain ⟨text, hmem⟩ := hi
    obtain ⟨b, hb⟩ :=
      hinv.sequential.ordered.spark_landed i (hinv.sequential.ordered.saved_spark i text hmem)
    obtain ⟨source, hsource⟩ := hinv.sequential.ordered.landed_read i b hb rfl
    refine ⟨low, high, hcarried, hto, ⟨source, b, hsource⟩, fun source b hread => ?_⟩
    obtain ⟨low', hlow', hwindow⟩ := hinv.window later i earlier hran source b hread high hto
    obtain rfl := ColumnValue.checkpoint_injective (Option.some.inj (hcarried.symm.trans hlow'))
    exact hwindow

/-- Every DAG has loaded its rows up to 5. -/
def loadedFive : Text → Option Text := fun _ => some "5".toList

/-- Two runs after an initial load read different rows. -/
theorem sqlIngestion_readsOnce_twoOrders :
    ∃ S, exec ordersSystem.step (State.start ordersSystem (Table.ofInts [7]) loadedFive)
        twoOrders = some S ∧
      S.store "orders".toList = some "12".toList ∧
      Disjoint (readBy S.log 2) (readBy S.log 1) := by
  have hrun : ((exec ordersSystem.step (State.start ordersSystem (Table.ofInts [7]) loadedFive)
      twoOrders).map fun S =>
        (S.store "orders".toList, decide (HasSaved S.log 2), decide (HasSaved S.log 1))) =
      some (some "12".toList, true, true) := by decide +kernel
  obtain ⟨S, hS, heq⟩ := Option.map_eq_some_iff.mp hrun
  obtain ⟨hstored, hsaved⟩ := Prod.mk.inj heq
  obtain ⟨hsecond, hfirst⟩ := Prod.mk.inj hsaved
  have hwatch : exec nonOverlapping [] twoOrders = some [2, 1] := by decide +kernel
  have hstore : (loadedFive "orders".toList).map parseText =
      some (ColumnValue.int 5).checkpoint := by decide +kernel
  have honce := (sqlIngestion_readsOnce (.inl rfl) incremental_ordersById (by decide) rfl hstore hS
    hwatch).1
  exact ⟨S, hS, hstored, honce 2 1 (by decide) (of_decide_eq_true hsecond)
    (of_decide_eq_true hfirst)⟩

end BatchIngestion
