import BatchIngestion.Sequential
import BatchIngestion.SqlIngestion

/-!
# When the stored checkpoint moves backwards

A save replaces the stored checkpoint whatever it is. A slow run that computed its
maximum before a newer run did, and saves after it, therefore moves the checkpoint
backwards. As long as runs save in the order of their maximum queries, the stored value
never decreases.
-/

namespace BatchIngestion

open Python Library

variable {ι : Type} {kind : ColumnKind} [DecidableEq ι]

/-- The maximum of a table does not decrease. -/
def Table.keepsMaximum (_reported : List CheckpointValue) (table next : Table kind) : Bool :=
  match table.maximum, next.maximum with
  | some v, some w => decide (v.rank ≤ w.rank)
  | some _, none => false
  | none, _ => true

/-- When a run computed its `checkpoint_to`: the length of the log after that. -/
def computedAt {σ β : Type} (log : List (ι × Action σ β)) (i : ι) : ℕ :=
  (log.dropWhile fun entry => !(decide (entry.1 = i) && entry.2.to?.isSome)).length

/-- Runs save in the order of their maximum queries: no run that saves computed its
`checkpoint_to` before a run that has already saved did. -/
def SavesInOrder {σ β : Type} (s : State ι σ β) (e : Event ι σ) : Prop :=
  ∀ i, s.Performs e i .saveCheckpoint → ∀ j, HasSaved s.log j →
    computedAt s.log j ≤ computedAt s.log i

/-! ### The order of the queries -/

section Computed

variable {σ β : Type} {log : List (ι × Action σ β)} {i j k : ι} {a : Action σ β}

/-- A run that computes its `checkpoint_to` now is the last one to do so. -/
theorem computedAt_fetchedTo (log : List (ι × Action σ β)) (i : ι) (t : Option CheckpointValue) :
    computedAt ((i, .fetchedTo t) :: log) i = log.length + 1 := by
  rw [computedAt, List.dropWhile_cons_of_neg (by simp [Action.to?]), List.length_cons]

/-- Other actions do not count. -/
theorem computedAt_cons (h : ∀ t, (k, a) ≠ (i, .fetchedTo t)) :
    computedAt ((k, a) :: log) i = computedAt log i := by
  rw [computedAt, List.dropWhile_cons_of_pos, computedAt]
  by_cases hk : k = i
  · subst hk
    cases a with
    | fetchedTo t => exact absurd rfl (h t)
    | _ => simp [Action.to?]
  · simp [hk]

/-- A `checkpoint_to` was computed some time ago. -/
theorem computedAt_le (log : List (ι × Action σ β)) (i : ι) : computedAt log i ≤ log.length :=
  (List.dropWhile_suffix _).length_le

/-- The value of a run that computed it later is reported later. -/
theorem rel_of_computedAt_le {R : CheckpointValue → CheckpointValue → Prop}
    (hR : (reportedIn log).Pairwise R) {v w : CheckpointValue} (hv : lastTo log i = some (some v))
    (hw : lastTo log j = some (some w)) (hle : computedAt log j ≤ computedAt log i) :
    v = w ∨ R v w := by
  induction log with
  | nil => simp [lastTo] at hv
  | cons entry log ih =>
    obtain ⟨k, a⟩ := entry
    have hR' : (reportedIn log).Pairwise R := hR.sublist (reportedIn_suffix log k a).sublist
    by_cases hi : ∃ t, (k, a) = (i, .fetchedTo t)
    · obtain ⟨t, heq⟩ := hi
      obtain ⟨rfl, rfl⟩ := Prod.mk.inj heq
      obtain rfl : t = some v := by simpa using hv
      rcases lastTo_cons_cases hw with ⟨-, heq⟩ | hw'
      · exact .inl (by simpa using heq)
      · exact .inr ((List.pairwise_cons.mp hR).1 w (mem_reportedIn_of_lastTo hw'))
    · have hi' : ∀ t, (k, a) ≠ (i, .fetchedTo t) := fun t heq => hi ⟨t, heq⟩
      by_cases hj : ∃ t, (k, a) = (j, .fetchedTo t)
      · -- the other run computed its value last, against the order
        obtain ⟨t, heq⟩ := hj
        obtain ⟨rfl, rfl⟩ := Prod.mk.inj heq
        rw [computedAt_fetchedTo, computedAt_cons hi'] at hle
        have hbound := computedAt_le log i
        omega
      · have hj' : ∀ t, (k, a) ≠ (j, .fetchedTo t) := fun t heq => hj ⟨t, heq⟩
        rw [computedAt_cons hi', computedAt_cons hj'] at hle
        refine ih hR' ?_ ?_ hle
        · rcases lastTo_cons_cases hv with ⟨rfl, rfl⟩ | hv'
          · exact absurd rfl (hi' _)
          · exact hv'
        · rcases lastTo_cons_cases hw with ⟨rfl, rfl⟩ | hw'
          · exact absurd rfl (hj' _)
          · exact hw'

end Computed

/-! ### The invariant -/

/-- The maximum of a table is at least a value. -/
def Table.Reaches (table : Table kind) (w : ColumnValue) : Prop :=
  ∃ m, table.maximum = some m ∧ w.rank ≤ m.rank

/-- What the reported values have to do with each other and with the stored one. -/
structure Ascending (sys : System ι (Table kind) (List Row)) (initial : Text → Option Text)
    (dagId : Text) (table : Table kind) (log : List (ι × Action (Table kind) (List Row))) :
    Prop where
  /-- The tasks are in order. -/
  ordered : WellOrdered sys log
  /-- Only values of the column are reported. -/
  reported_held : ReportsHeld kind log
  /-- The maximum has reached every reported value. -/
  reported_reached : ∀ w : ColumnValue, w.checkpoint ∈ reportedIn log → table.Reaches w
  /-- The reported values ascend. -/
  pairwise : (reportedIn log).Pairwise fun v w => w.rank ≤ v.rank
  /-- The initial checkpoint is a value of the column that all reported values have reached. -/
  initial_reached : ∀ text, initial dagId = some text →
    ∃ w : ColumnValue, kind.holds w = true ∧ parseText text = w.checkpoint ∧ table.Reaches w ∧
      ∀ x : ColumnValue, x.checkpoint ∈ reportedIn log → w.rank ≤ x.rank

section Steps

variable {sys : System ι (Table kind) (List Row)} {initial : Text → Option Text} {dagId : Text}
  {table next : Table kind} {log : List (ι × Action (Table kind) (List Row))} {i : ι}
  {a : Action (Table kind) (List Row)}

/-- A maximum that does not decrease still reaches a value. -/
theorem Table.Reaches.of_keepsMaximum {reported : List CheckpointValue} {w : ColumnValue}
    (h : table.Reaches w) (hkeeps : Table.keepsMaximum reported table next = true) :
    next.Reaches w := by
  obtain ⟨m, hm, hle⟩ := h
  rw [Table.keepsMaximum, hm] at hkeeps
  cases hn : next.maximum with
  | none => simp [hn] at hkeeps
  | some n =>
    rw [hn] at hkeeps
    exact ⟨n, hn, hle.trans (of_decide_eq_true hkeeps)⟩

/-- A maximum that does not decrease keeps the reported values ascending. -/
theorem Ascending.of_keepsMaximum (h : Ascending sys initial dagId table log)
    (hkeeps : Table.keepsMaximum (reportedIn log) table next = true) :
    Ascending sys initial dagId next log where
  ordered := h.ordered
  reported_held := h.reported_held
  reported_reached w hw := (h.reported_reached w hw).of_keepsMaximum hkeeps
  pairwise := h.pairwise
  initial_reached text htext := by
    obtain ⟨w, hheld, heq, hreaches, hle⟩ := h.initial_reached text htext
    exact ⟨w, hheld, heq, hreaches.of_keepsMaximum hkeeps, hle⟩

/-- An allowed action keeps the reported values ascending. -/
theorem Ascending.cons (h : Ascending sys initial dagId table log)
    (hsource : ∀ i, (sys.dag i).source.ReportsMaximum)
    (hallowed : sys.Allowed initial table log i a) :
    Ascending sys initial dagId table ((i, a) :: log) where
  ordered := h.ordered.cons hallowed
  reported_held := h.reported_held.cons (hsource i) hallowed
  reported_reached w hw := by
    rcases hallowed.maximum_of_reported (hsource i) hw with ⟨m, hm, heq⟩ | hw
    · obtain rfl := ColumnValue.checkpoint_injective heq
      exact ⟨m, hm, le_rfl⟩
    · exact h.reported_reached w hw
  pairwise := by
    cases hallowed with
    | @fetchedTo t hopen hmax =>
      cases t with
      | none => exact h.pairwise
      | some v =>
        refine List.pairwise_cons.mpr ⟨fun w hw => ?_, h.pairwise⟩
        obtain ⟨m, hm, rfl⟩ := (hsource i).maximum (hmax.resolve_left (by simp)).symm
        obtain ⟨y, -, rfl⟩ := h.reported_held w hw
        obtain ⟨n, hn, hle⟩ := h.reported_reached y hw
        obtain rfl := Option.some.inj (hm.symm.trans hn)
        simpa using hle
    | _ => exact h.pairwise
  initial_reached text htext := by
    obtain ⟨w, hheld, heq, hreaches, hle⟩ := h.initial_reached text htext
    refine ⟨w, hheld, heq, hreaches, fun x hx => ?_⟩
    rcases hallowed.maximum_of_reported (hsource i) hx with ⟨m, hm, hx⟩ | hx
    · obtain rfl := ColumnValue.checkpoint_injective hx
      obtain ⟨n, hn, hle⟩ := hreaches
      obtain rfl := Option.some.inj (hm.symm.trans hn)
      exact hle
    · exact hle x hx

/-- A saved text is the text of a value of the column. -/
theorem Ascending.held_of_saved (h : Ascending sys initial dagId table log) {text : Text}
    (hmem : (i, .saved text) ∈ log) : ∃ w : ColumnValue, kind.holds w = true ∧
      parseText text = w.checkpoint ∧ lastTo log i = some (some w.checkpoint) := by
  have hto := h.ordered.parseText_of_saved hmem
  obtain ⟨w, hheld, heq⟩ := h.reported_held _ (mem_reportedIn_of_lastTo hto)
  exact ⟨w, hheld, heq.symm, heq ▸ hto⟩

/-- The stored text is the text of a value of the column. -/
theorem Ascending.held_of_stored (h : Ascending sys initial dagId table log) {text : Text}
    (hstored : sys.stored initial log dagId = some text) :
    ∃ w : ColumnValue, kind.holds w = true ∧ parseText text = w.checkpoint := by
  rcases System.stored_eq_some hstored with hinitial | ⟨j, hmem, -⟩
  · obtain ⟨w, hheld, heq, -⟩ := h.initial_reached text hinitial
    exact ⟨w, hheld, heq⟩
  · obtain ⟨w, hheld, heq, -⟩ := h.held_of_saved hmem
    exact ⟨w, hheld, heq⟩

/-- **A save in the order of the queries does not decrease the stored value.** -/
theorem Ascending.stored_le (h : Ascending sys initial dagId table log) {text text' : Text}
    (hstored : sys.stored initial log dagId = some text)
    (hallowed : sys.Allowed initial table log i (.saved text'))
    (horder : ∀ j, HasSaved log j → computedAt log j ≤ computedAt log i) {x y : ColumnValue}
    (hx : parseText text = x.checkpoint) (hy : parseText text' = y.checkpoint) :
    x.rank ≤ y.rank := by
  cases hallowed with
  | saved hspark hto htext =>
    obtain ⟨v, rfl, hv⟩ := exists_of_checkpointText htext
    have hreported := mem_reportedIn_of_lastTo hto
    obtain rfl : y.checkpoint = v :=
      hy.symm.trans (parseText_of_text (h.ordered.reported_stable v hreported) hv)
    rcases System.stored_eq_some hstored with hinitial | ⟨j, hmem, -⟩
    · obtain ⟨w, -, hw, -, hle⟩ := h.initial_reached text hinitial
      obtain rfl := ColumnValue.checkpoint_injective (hx.symm.trans hw)
      exact hle y hreported
    · obtain ⟨w, -, hw, hto'⟩ := h.held_of_saved hmem
      obtain rfl := ColumnValue.checkpoint_injective (hx.symm.trans hw)
      rcases rel_of_computedAt_le h.pairwise hto hto' (horder j ⟨text, hmem⟩) with heq | hrel
      · rw [ColumnValue.checkpoint_injective heq]
      · simpa using hrel

end Steps

/-! ### Two moments of a run -/

/-- **The stored checkpoint does not move backwards while runs save in the order of their
maximum queries.** The runs of one DAG interleave arbitrarily over a source whose maximum
never decreases, and no run saves after a run whose maximum query came later has saved.
Then of two moments the later one has the greater or equal value. -/
theorem stored_le_of_savesInOrder {dagId : Text} {source : Source (Table kind) (List Row)}
    {info : ι → RunInfo} {table : Table kind} {store : Text → Option Text}
    (hsource : source.ReportsMaximum)
    (hstore : ∀ text, store dagId = some text →
      ∃ w : ColumnValue, kind.holds w = true ∧ parseText text = w.checkpoint ∧ table.Reaches w)
    {es fs : List (Event ι (Table kind))} {S T : State ι (Table kind) (List Row)}
    (hsaves : Along (DagFactory.oneDag dagId source info Table.keepsMaximum).step SavesInOrder
      (State.start (DagFactory.oneDag dagId source info Table.keepsMaximum) table store) (es ++ fs))
    (hS : exec (DagFactory.oneDag dagId source info Table.keepsMaximum).step
      (State.start (DagFactory.oneDag dagId source info Table.keepsMaximum) table store) es =
        some S)
    (hT : exec (DagFactory.oneDag dagId source info Table.keepsMaximum).step S fs = some T)
    {text : Text} (hstored : S.store dagId = some text) :
    ∃ text' v w, T.store dagId = some text' ∧ kind.holds v = true ∧ kind.holds w = true ∧
      parseText text = v.checkpoint ∧ parseText text' = w.checkpoint ∧ v.rank ≤ w.rank := by
  have hstart : Ascending (DagFactory.oneDag dagId source info Table.keepsMaximum) store dagId table
      ([] : List (ι × Action (Table kind) (List Row))) := {
    ordered := wellOrdered_nil _
    reported_held := fun v hv => by simp [reportedIn] at hv
    reported_reached := fun w hw => by simp [reportedIn] at hw
    pairwise := List.Pairwise.nil
    initial_reached := fun text htext => by
      obtain ⟨w, hheld, heq, hreaches⟩ := hstore text htext
      exact ⟨w, hheld, heq, hreaches, fun x hx => by simp [reportedIn] at hx⟩ }
  have hfirst := System.ledger_invariant_from
    (Ascending (DagFactory.oneDag dagId source info Table.keepsMaximum) store dagId)
    (simulates_start _ table store) hstart (fun hinv hmoves => hinv.of_keepsMaximum hmoves)
    (fun hinv _ hallowed _ => hinv.cons (fun _ => hsource) hallowed) hsaves.of_append_left hS
  obtain ⟨hsim, hasc⟩ := hfirst
  rw [hsim.store_eq] at hstored
  obtain ⟨v, hv, htext⟩ := hasc.held_of_stored hstored
  have hsecond := System.ledger_invariant_from
    (fun src log =>
      Ascending (DagFactory.oneDag dagId source info Table.keepsMaximum) store dagId src log ∧
      ∃ text' w, (DagFactory.oneDag dagId source info Table.keepsMaximum).stored store log dagId =
        some text' ∧ kind.holds w = true ∧ parseText text' = w.checkpoint ∧ v.rank ≤ w.rank)
    hsim ⟨hasc, text, v, hstored, hv, htext, le_rfl⟩
    (fun hinv hmoves => ⟨hinv.1.of_keepsMaximum hmoves, hinv.2⟩) ?_ (hsaves.of_append hS) hT
  · obtain ⟨hsim', -, text', w, hstored', hw, htext', hle⟩ := hsecond
    exact ⟨text', v, w, hsim'.store_eq ▸ hstored', hv, hw, htext, htext', hle⟩
  · rintro s e i a ⟨hinv, text', w, hstored', hw, htext', hle⟩ horder hallowed hperforms
    refine ⟨hinv.cons (fun _ => hsource) hallowed, ?_⟩
    by_cases ha : ∃ saved, a = .saved saved
    · obtain ⟨saved, rfl⟩ := ha
      obtain ⟨x, hx, hsaved, -⟩ :=
        (hinv.cons (fun _ => hsource) hallowed).held_of_saved (i := i) List.mem_cons_self
      refine ⟨saved, x, ?_, hx, hsaved, hle.trans ?_⟩
      · rw [System.stored_saved]
        exact Function.update_self _ _ _
      · exact hinv.stored_le hstored' hallowed (horder i (State.performs_saveCheckpoint hperforms))
          htext' hsaved
    · rw [System.stored_cons_of_ne _ store i fun saved heq => ha ⟨saved, heq⟩]
      exact ⟨text', w, hstored', hw, htext', hle⟩

/-! ### Runs that do not overlap -/

/-- What a history of runs that do not overlap records of the order of the queries. -/
structure ComputedInOrder {σ β : Type} (sys : System ι σ β) (initial : Text → Option Text)
    (dagId : Text) (log : List (ι × Action σ β)) (ran : List ι) : Prop where
  /-- The runs are sequential. -/
  sequential : Sequential sys initial dagId log ran
  /-- A later run computes its `checkpoint_to` later. -/
  computed : ∀ later i earlier, ran = later ++ i :: earlier → ∀ j ∈ earlier, ∀ t,
    lastTo log i = some t → computedAt log j ≤ computedAt log i

section Runs

variable {σ β : Type} {sys : System ι σ β} {initial : Text → Option Text} {dagId : Text}
  {source : σ} {log : List (ι × Action σ β)} {ran : List ι} {i : ι} {a : Action σ β}

/-- A run starts. -/
theorem ComputedInOrder.start (h : ComputedInOrder sys initial dagId log ran) (hi : i ∉ ran) :
    ComputedInOrder sys initial dagId log (i :: ran) where
  sequential := h.sequential.start hi
  computed later j earlier hran k hk t ht := by
    rcases split_cons hran with ⟨rfl, rfl⟩ | ⟨later', hran⟩
    · have hsilent : ∀ entry ∈ log, entry.1 ≠ j := by
        rintro entry hmem rfl
        exact hi (h.sequential.acted entry hmem)
      simp [lastTo_eq_none hsilent] at ht
    · exact h.computed later' j earlier hran k hk t ht

/-- The newest run acts. -/
theorem ComputedInOrder.act (h : ComputedInOrder sys initial dagId log (i :: ran))
    (hdag : (sys.dag i).dagId = dagId) (hallowed : sys.Allowed initial source log i a) :
    ComputedInOrder sys initial dagId ((i, a) :: log) (i :: ran) where
  sequential := h.sequential.act hdag hallowed
  computed later j earlier hran k hk t ht := by
    have hik : i ≠ k := fun heq => notMem_earlier h.sequential.nodup hran (heq ▸ hk)
    have hk' : computedAt ((i, a) :: log) k = computedAt log k :=
      computedAt_cons fun t heq => hik (Prod.mk.inj heq).1
    rw [hk']
    by_cases hj : ∃ t, (i, a) = (j, .fetchedTo t)
    · obtain ⟨t, heq⟩ := hj
      obtain ⟨rfl, rfl⟩ := Prod.mk.inj heq
      rw [computedAt_fetchedTo]
      exact (computedAt_le log k).trans (Nat.le_succ _)
    · have hj' : ∀ t, (i, a) ≠ (j, .fetchedTo t) := fun t heq => hj ⟨t, heq⟩
      have ht' : lastTo log j = some t := by
        by_cases hij : i = j
        · subst hij
          cases a with
          | fetchedTo t => exact absurd rfl (hj' t)
          | _ => exact (newest_cons_of_none rfl i i log).symm.trans ht
        · exact (newest_cons_of_ne _ hij a log).symm.trans ht
      rw [computedAt_cons hj']
      exact h.computed later j earlier hran k hk t ht'

/-- **Runs that do not overlap save in the order of their maximum queries.** -/
theorem savesInOrder_of_nonOverlapping {store : Text → Option Text} {es : List (Event ι σ)}
    (hdag : ∀ i, (sys.dag i).dagId = dagId) (hwatch : exec nonOverlapping [] es = some ran) :
    Along sys.step SavesInOrder (State.start sys source store) es := by
  have hturn {log : List (ι × Action σ β)} {m n : List ι} {e : Event ι σ} {i : ι}
      (hinv : ComputedInOrder sys store dagId log m) (hactor : e.actor = some i)
      (hw : nonOverlapping m e = some n) : ComputedInOrder sys store dagId log n := by
    rcases (nonOverlapping_cases hactor hw).2 with rfl | ⟨hi, rfl⟩
    · exact hinv
    · exact hinv.start hi
  refine System.along_of_watch (fun _ log ran => ComputedInOrder sys store dagId log ran)
    ⟨sequential_nil sys store dagId, fun later i earlier hran => by simp at hran⟩ ?_
    (fun hinv hactor hw => hturn hinv hactor hw) ?_ ?_ hwatch
  · intro src log m next n hinv hmoves hw
    rw [nonOverlapping_source hw]
    exact hinv
  · intro src log m n e i a hinv hactor hw hallowed
    obtain ⟨earlier, rfl⟩ := (nonOverlapping_cases hactor hw).1
    exact hinv.act (hdag i) hallowed
  · rintro s m n e hs hinv hw i ⟨outside, rest, rfl, -, htodo⟩ j hsaved
    have hinv' := hturn hinv rfl hw
    obtain ⟨earlier, rfl⟩ := (nonOverlapping_cases rfl hw).1
    obtain ⟨text, hmem⟩ := hsaved
    have htask : (s.runs i).task = .metricPush := (hs.tracks i).task_eq htodo
    have hinit := (hs.tracks i).init_finished (by simp [htask])
    obtain ⟨t, ht⟩ := (hinv.sequential.ordered.init_fetches i hinit).2
    rcases List.mem_cons.mp (hinv'.sequential.acted _ hmem) with rfl | hj
    · exact le_rfl
    · exact hinv'.computed [] i earlier rfl j hj t ht

end Runs

/-! ### Overlapping runs -/

/-- The runs of `orders`, over a table whose maximum never decreases. -/
def growingOrders : System ℕ (Table .integer) (List Row) :=
  DagFactory.oneDag "orders".toList ordersSource (fun _ => ⟨[], [], []⟩) Table.keepsMaximum

/-- Two runs that do not overlap do not move the checkpoint backwards. -/
theorem stored_le_growingOrders :
    ∃ S T, exec growingOrders.step (State.start growingOrders (Table.ofInts [7]) fun _ => none)
        (ordersSource.uneventful 1 .up) = some S ∧
      exec growingOrders.step S
        (.source (Table.ofInts [7, 12]) :: ordersSource.uneventful 2 .up) = some T ∧
      ∃ v w : ColumnValue, parseText "7".toList = v.checkpoint ∧
        T.store "orders".toList = some "12".toList ∧ parseText "12".toList = w.checkpoint ∧
        v.rank ≤ w.rank := by
  have hrun : ((exec growingOrders.step
      (State.start growingOrders (Table.ofInts [7]) fun _ => none)
        (ordersSource.uneventful 1 .up)).bind fun S => (exec growingOrders.step S
        (.source (Table.ofInts [7, 12]) :: ordersSource.uneventful 2 .up)).map fun T =>
          (S.store "orders".toList, T.store "orders".toList)) =
      some (some "7".toList, some "12".toList) := by decide +kernel
  obtain ⟨S, hS, hrun⟩ := Option.bind_eq_some_iff.mp hrun
  obtain ⟨T, hT, hstores⟩ := Option.map_eq_some_iff.mp hrun
  obtain ⟨hbefore, hafter⟩ := Prod.mk.inj hstores
  have hwatch : exec nonOverlapping [] (ordersSource.uneventful 1 .up ++
      .source (Table.ofInts [7, 12]) :: ordersSource.uneventful 2 .up) = some [2, 1] := by
    decide +kernel
  obtain ⟨text, v, w, htext, -, -, hv, hw, hle⟩ := stored_le_of_savesInOrder
    (reportsMaximum_sqlSource incremental_ordersById (.inl rfl)) (by simp)
    (savesInOrder_of_nonOverlapping (fun _ => rfl) hwatch) hS hT hbefore
  obtain rfl := Option.some.inj (hafter.symm.trans htext)
  exact ⟨S, T, hS, hT, v, w, hv, hafter, hw, hle⟩

/-- A run is overtaken by a newer one and saves after it: the stored checkpoint falls from
20 to 10, although the maximum of the table never decreases. -/
theorem stored_falls_growingOrders :
    ∃ S T, exec growingOrders.step (State.start growingOrders (Table.ofInts [10]) fun _ => none)
        (List.replicate 9 (.perform 1 .up) ++ .source (Table.ofInts [10, 20]) ::
          ordersSource.uneventful 2 .up) = some S ∧
      exec growingOrders.step S (.next 1 :: List.replicate 11 (.perform 1 .up) ++
        .next 1 :: List.replicate 5 (.perform 1 .up)) = some T ∧
      (S.store "orders".toList).map parseText = some (.int 20) ∧
      (T.store "orders".toList).map parseText = some (.int 10) := by
  have hrun : ((exec growingOrders.step
      (State.start growingOrders (Table.ofInts [10]) fun _ => none)
        (List.replicate 9 (.perform 1 .up) ++ .source (Table.ofInts [10, 20]) ::
          ordersSource.uneventful 2 .up)).bind fun S =>
      (exec growingOrders.step S (.next 1 :: List.replicate 11 (.perform 1 .up) ++
        .next 1 :: List.replicate 5 (.perform 1 .up))).map fun T =>
          ((S.store "orders".toList).map parseText, (T.store "orders".toList).map parseText)) =
      some (some (.int 20), some (.int 10)) := by decide +kernel
  obtain ⟨S, hS, hrun⟩ := Option.bind_eq_some_iff.mp hrun
  obtain ⟨T, hT, hstores⟩ := Option.map_eq_some_iff.mp hrun
  obtain ⟨hbefore, hafter⟩ := Prod.mk.inj hstores
  exact ⟨S, T, hS, hT, hbefore, hafter⟩

end BatchIngestion
