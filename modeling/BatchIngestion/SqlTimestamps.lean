import BatchIngestion.SqlAdapter

/-!
# The SQL window for timestamps

The `WHERE` clause of a bounded read starts with a guard that compares its two literals
with each other, as texts. The text of a timestamp starts with its local time, so the
guard compares local times where the bounds compare instants. The window is exact unless
the guard rejects two timestamps with different offsets although the first one is earlier.
-/

namespace BatchIngestion

open Python Library

/-- The verdict of the `WHERE` clause of a query on a row. A query without a clause lets
every row through. -/
def ReadQuery.selects (row : Row) : ReadQuery → Option Bool
  | .custom _ => none
  | .table _ _ => some true
  | .window _ _ _ fromVal toVal => do
    let low ← SqlLiteral.ofText fromVal
    let high ← SqlLiteral.ofText toVal
    whereClause low high row

/-- The rows of a bounded query are those that its clause selects. -/
theorem ReadQuery.eval_window {custom : Text → List Row → Except PyExc (List Row)}
    {rows batch : List Row} {schema name column fromVal toVal : Text}
    (h : (ReadQuery.window schema name column fromVal toVal).eval custom rows = .ok batch) :
    batch = rows.filter fun row =>
      (ReadQuery.window schema name column fromVal toVal).selects row = some true := by
  simp only [eval] at h
  split at h
  · simp at h
  · split at h
    · rename_i low high hlow hhigh
      split at h
      · obtain rfl := Except.ok.inj h
        simp [selects, hlow, hhigh]
      · simp at h
    · simp at h

/-- The `WHERE` clause that is built for two timestamps selects exactly the rows after the
first one and up to the second one. -/
def WindowExact (cfg : TableSourceConfig) (low high : DateTime) (rows : List Row) : Prop :=
  ∃ query, buildReadQuery cfg (some (.datetime low)) (some (.datetime high)) = .ok query ∧
    ∀ row ∈ rows, query.selects row =
      some (decide (low.instant < row.rank ∧ row.rank ≤ high.instant))

/-- Two timestamps are in the order of their local times. When the local times agree, the
second one has a negative offset. -/
def LocallyBefore (low high : DateTime) : Prop :=
  low.naive.micros < high.naive.micros ∨
    (low.naive.micros = high.naive.micros ∧ ∃ o ∈ high.offset, o.micros < 0)

section Window

variable {kind : ColumnKind} {cfg : TableSourceConfig} {low high : DateTime}

/-- The clause on a row is the guard and the two bounds. -/
theorem exists_selects (hcolumn : cfg.checkpointColumn.getD [] ≠ [])
    (hquery : cfg.query.getD [] = [])
    (hlow : kind.holds (.timestamp low) = true) (hhigh : kind.holds (.timestamp high) = true) :
    ∃ query, buildReadQuery cfg (some (.datetime low)) (some (.datetime high)) = .ok query ∧
      ∀ row : Row, kind.holds row.value = true → query.selects row =
        some (decide (isoformat ' ' low < isoformat ' ' high) &&
          decide (low.instant < row.rank ∧ row.rank ≤ high.instant)) := by
  obtain ⟨c, column, hcons⟩ := List.exists_cons_of_ne_nil hcolumn
  have hformat (d : DateTime) :
      formatCheckpoint (.datetime d) = .ok ('\'' :: (isoformat ' ' d ++ ['\''])) := rfl
  have hbuilt : buildReadQuery cfg (some (.datetime low)) (some (.datetime high)) =
      .ok (.window cfg.schema cfg.table (c :: column) ('\'' :: (isoformat ' ' low ++ ['\'']))
        ('\'' :: (isoformat ' ' high ++ ['\'']))) := by
    simp only [buildReadQuery, hquery, hcons, hformat, ok_bind, pure_eq_ok]
  refine ⟨_, hbuilt, fun row hrow => ?_⟩
  have hliteral (d : DateTime) :
      SqlLiteral.ofText ('\'' :: (isoformat ' ' d ++ ['\''])) = some (.string (isoformat ' ' d)) :=
    SqlLiteral.ofText_formatCheckpoint (v := .timestamp d) rfl
  have hlowRank : (SqlLiteral.string (isoformat ' ' low)).rankFor row.value = some low.instant :=
    ColumnValue.rankFor_literal (w := .timestamp low) hrow hlow
  have hhighRank : (SqlLiteral.string (isoformat ' ' high)).rankFor row.value = some high.instant :=
    ColumnValue.rankFor_literal (w := .timestamp high) hrow hhigh
  simp only [ReadQuery.selects, hliteral, whereClause, SqlLiteral.lt, hlowRank, hhighRank,
    Option.bind_eq_bind, Option.bind_some, Option.pure_def, Bool.and_assoc, Bool.decide_and]

/-- **The guard compares local times.** Of two timestamps of one kind, the first one being
earlier, the text of the first one comes first exactly when the local times agree with that. -/
theorem isoformat_lt_iff_locallyBefore (hlow : kind.holds (.timestamp low) = true)
    (hhigh : kind.holds (.timestamp high) = true) (hlt : low.instant < high.instant) :
    isoformat ' ' low < isoformat ' ' high ↔ LocallyBefore low high := by
  rw [isoformat_lt_isoformat_iff, LocallyBefore]
  refine or_congr_right (and_congr_right fun hlocal => ?_)
  unfold DateTime.instant at hlt
  cases hl : low.offset <;> cases hh : high.offset
  case none.none => simp [hl, hh, hlocal] at hlt
  case some.some o p =>
    have hlater : p.micros < o.micros := by
      simp only [hl, hh, hlocal, Option.elim_some] at hlt
      omega
    simpa [offsetText] using isoOffset_lt_iff hlater
  all_goals cases kind <;> simp [ColumnKind.holds, hl, hh] at hlow hhigh

/-- The clause is exact when the guard is right about a window with rows. -/
theorem windowExact_of_locallyBefore (hcolumn : cfg.checkpointColumn.getD [] ≠ [])
    (hquery : cfg.query.getD [] = []) (hlow : kind.holds (.timestamp low) = true)
    (hhigh : kind.holds (.timestamp high) = true) (table : Table kind)
    (hlocal : (∃ row ∈ table.rows, low.instant < row.rank ∧ row.rank ≤ high.instant) →
      LocallyBefore low high) : WindowExact cfg low high table.rows := by
  obtain ⟨query, hbuilt, hselects⟩ := exists_selects hcolumn hquery hlow hhigh
  refine ⟨query, hbuilt, fun row hrow => ?_⟩
  rw [hselects row (table.typed row hrow)]
  by_cases hwindow : low.instant < row.rank ∧ row.rank ≤ high.instant
  · have hguard := (isoformat_lt_iff_locallyBefore hlow hhigh
      (hwindow.1.trans_le hwindow.2)).mpr (hlocal ⟨row, hrow, hwindow⟩)
    rw [decide_eq_true hguard, Bool.true_and]
  · rw [decide_eq_false hwindow, Bool.and_false]

/-- A wrong verdict of the guard empties the window. -/
theorem sqlRead_eq_nil (hcfg : cfg.Incremental) (hlow : kind.holds (.timestamp low) = true)
    (hhigh : kind.holds (.timestamp high) = true) (hlt : low.instant < high.instant)
    (hlocal : ¬ LocallyBefore low high) {custom : Text → List Row → Except PyExc (List Row)}
    {table : Table kind} {batch : List Row}
    (h : sqlRead cfg custom table (some (.datetime low)) (some (.datetime high)) = .ok batch) :
    batch = [] := by
  obtain ⟨query, hbuilt, hselects⟩ := exists_selects hcfg.column hcfg.no_query hlow hhigh
  rw [sqlRead, hbuilt, ok_bind, hcfg.effectiveQuery_eq, ok_bind] at h
  have hguard := (isoformat_lt_iff_locallyBefore hlow hhigh hlt).not.mpr hlocal
  obtain ⟨c, column, hcons⟩ := List.exists_cons_of_ne_nil hcfg.column
  have hwindow : ∃ column fromVal toVal,
      query = .window cfg.schema cfg.table column fromVal toVal := by
    simp only [buildReadQuery, hcfg.no_query, hcons, formatCheckpoint, ok_bind, pure_eq_ok]
      at hbuilt
    exact ⟨_, _, _, (Except.ok.inj hbuilt).symm⟩
  obtain ⟨column, fromVal, toVal, rfl⟩ := hwindow
  rw [ReadQuery.eval_window h, List.filter_eq_nil_iff]
  intro row hrow
  rw [hselects row (table.typed row hrow), decide_eq_false hguard]
  simp

/-- Timestamps with one offset, or without one, are in the order of their local times. -/
theorem locallyBefore_of_offset_eq (hoffset : low.offset = high.offset)
    (hlt : low.instant < high.instant) : LocallyBefore low high := by
  refine .inl ?_
  unfold DateTime.instant at hlt
  rw [hoffset] at hlt
  omega

/-- The window is exact for timestamps with one offset, or without one. -/
theorem windowExact_of_offset_eq (hcolumn : cfg.checkpointColumn.getD [] ≠ [])
    (hquery : cfg.query.getD [] = []) (hlow : kind.holds (.timestamp low) = true)
    (hhigh : kind.holds (.timestamp high) = true) (hoffset : low.offset = high.offset)
    (table : Table kind) : WindowExact cfg low high table.rows := by
  refine windowExact_of_locallyBefore hcolumn hquery hlow hhigh table ?_
  rintro ⟨row, -, hlt, hle⟩
  exact locallyBefore_of_offset_eq hoffset (hlt.trans_le hle)

/-- **The SQL window is exact for timestamps whenever the guard is right.** For every two
timestamps of the kind of the column and every table, the built clause selects exactly the
rows after the first one and up to the second one if and only if there are no such rows, or
the two timestamps are in the order of their local times. -/
theorem windowExact_iff (hcolumn : cfg.checkpointColumn.getD [] ≠ [])
    (hquery : cfg.query.getD [] = []) (hlow : kind.holds (.timestamp low) = true)
    (hhigh : kind.holds (.timestamp high) = true) (table : Table kind) :
    WindowExact cfg low high table.rows ↔
      ((∃ row ∈ table.rows, low.instant < row.rank ∧ row.rank ≤ high.instant) →
        LocallyBefore low high) := by
  constructor
  · rintro ⟨query', hbuilt', hexact⟩ ⟨row, hrow, hwindow⟩
    obtain ⟨query, hbuilt, hselects⟩ := exists_selects hcolumn hquery hlow hhigh
    obtain rfl : query = query' := Except.ok.inj (hbuilt.symm.trans hbuilt')
    have hverdict := (hselects row (table.typed row hrow)).symm.trans (hexact row hrow)
    rw [← isoformat_lt_iff_locallyBefore hlow hhigh (hwindow.1.trans_le hwindow.2)]
    simpa [hwindow] using hverdict
  · exact windowExact_of_locallyBefore hcolumn hquery hlow hhigh table

end Window

/-! ### The end of daylight saving time -/

/-- A table that is read by a timestamp. -/
def ordersByTime : TableSourceConfig :=
  { ordersById with checkpointColumn := some "updated_at".toList }

/-- Half past two in summer time. -/
def summerTime : DateTime :=
  (fromisoformat "2024-10-27 02:30:00+02:00".toList).get (by decide +kernel)

/-- A quarter past two in winter time, three quarters of an hour later. -/
def winterTime : DateTime :=
  (fromisoformat "2024-10-27 02:15:00+01:00".toList).get (by decide +kernel)

/-- A row of the later time. -/
def winterOrders : Table .aware where
  rows := [⟨0, .timestamp winterTime⟩]
  typed := by decide +kernel

/-- Half past one in summer time. -/
def earlierSummerTime : DateTime :=
  (fromisoformat "2024-10-27 01:30:00+02:00".toList).get (by decide +kernel)

/-- The offset changes between the two timestamps, and the local times are in order. -/
theorem windowExact_winterOrders :
    WindowExact ordersByTime earlierSummerTime winterTime winterOrders.rows :=
  (windowExact_iff (by decide) rfl (by decide +kernel) (by decide +kernel)
    winterOrders).mpr fun _ => .inl (by decide +kernel)

/-- **The window loses the row**: it lies between the two timestamps, but the text of the
earlier one comes later. -/
theorem not_windowExact_winterOrders :
    ColumnKind.aware.holds (.timestamp summerTime) = true ∧
      ColumnKind.aware.holds (.timestamp winterTime) = true ∧
      ¬ WindowExact ordersByTime summerTime winterTime winterOrders.rows := by
  refine ⟨by decide +kernel, by decide +kernel, ?_⟩
  rintro ⟨query, hbuilt, hselects⟩
  have hverdict : ((buildReadQuery ordersByTime (some (.datetime summerTime))
      (some (.datetime winterTime))).toOption.bind
        (ReadQuery.selects ⟨0, .timestamp winterTime⟩)) = some false := by decide +kernel
  have hwindow : summerTime.instant < winterTime.instant := by decide +kernel
  rw [hbuilt] at hverdict
  have hexact := hselects _ (List.mem_singleton_self _)
  rw [decide_eq_true ⟨hwindow, le_refl _⟩] at hexact
  exact absurd (hverdict.symm.trans hexact) (by decide)

end BatchIngestion
