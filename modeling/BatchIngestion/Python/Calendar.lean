import Mathlib.Data.Int.Basic
import Mathlib.Tactic.Linarith

/-!
# Calendar dates and points in time

The `datetime` type of Python: a local date and time with microseconds, and
optionally an offset from UTC. Validity is part of the types, so that every value
is one that the constructor accepts. The proleptic Gregorian day count orders
dates as their year, month and day do, which gives chronological order.
-/

namespace BatchIngestion.Python

/-- A leap year of the Gregorian calendar. -/
def isLeap (year : ℕ) : Bool :=
  decide (year % 4 = 0 ∧ (year % 100 ≠ 0 ∨ year % 400 = 0))

/-- The number of days in a month of a leap or ordinary year. -/
def monthLength (leap : Bool) : ℕ → ℕ
  | 2 => if leap then 29 else 28
  | 4 | 6 | 9 | 11 => 30
  | _ => 31

/-- `_days_in_month`: the number of days in a month. -/
def daysInMonth (year month : ℕ) : ℕ := monthLength (isLeap year) month

/-- `_days_before_year`: the days from the first of January of year one. -/
def daysBeforeYear (year : ℕ) : ℕ :=
  (year - 1) * 365 + (year - 1) / 4 - (year - 1) / 100 + (year - 1) / 400

/-- The days before a month in a leap or ordinary year. -/
def monthStart (leap : Bool) : ℕ → ℕ
  | 0 | 1 => 0
  | m + 1 => monthStart leap m + monthLength leap m

/-- `_ymd2ord`: the proleptic Gregorian ordinal of a date. -/
def ymdToOrd (year month day : ℕ) : ℕ :=
  daysBeforeYear year + monthStart (isLeap year) month + day

/-- A naive `datetime`: the local date and time, with the bounds that the
constructor checks. -/
structure NaiveDateTime where
  /-- The year, from `MINYEAR` to `MAXYEAR`. -/
  year : ℕ
  /-- The month, counted from one. -/
  month : ℕ
  /-- The day of the month, counted from one. -/
  day : ℕ
  /-- The hour. -/
  hour : ℕ
  /-- The minute. -/
  minute : ℕ
  /-- The second; there are no leap seconds. -/
  second : ℕ
  /-- The microsecond. -/
  microsecond : ℕ
  /-- The constructor accepts years one to 9999. -/
  year_bounds : 1 ≤ year ∧ year ≤ 9999
  /-- The constructor accepts months one to twelve. -/
  month_bounds : 1 ≤ month ∧ month ≤ 12
  /-- The day exists in its month. -/
  day_bounds : 1 ≤ day ∧ day ≤ daysInMonth year month
  /-- The time of day is in range. -/
  time_bounds : hour < 24 ∧ minute < 60 ∧ second < 60 ∧ microsecond < 1000000
  deriving DecidableEq

/-- The check that the `datetime` constructor makes; `none` is its `ValueError`. -/
def NaiveDateTime.mk? (year month day hour minute second microsecond : ℕ) :
    Option NaiveDateTime :=
  if hyear : 1 ≤ year ∧ year ≤ 9999 then
    if hmonth : 1 ≤ month ∧ month ≤ 12 then
      if hday : 1 ≤ day ∧ day ≤ daysInMonth year month then
        if htime : hour < 24 ∧ minute < 60 ∧ second < 60 ∧ microsecond < 1000000 then
          some ⟨year, month, day, hour, minute, second, microsecond, hyear, hmonth, hday, htime⟩
        else none
      else none
    else none
  else none

/-- The constructor accepts the fields of a valid value and gives it back. -/
@[simp] theorem NaiveDateTime.mk?_fields (d : NaiveDateTime) :
    NaiveDateTime.mk? d.year d.month d.day d.hour d.minute d.second d.microsecond = some d := by
  rw [mk?, dif_pos d.year_bounds, dif_pos d.month_bounds, dif_pos d.day_bounds,
    dif_pos d.time_bounds]

/-- A `date`. -/
structure Date where
  /-- The year, from `MINYEAR` to `MAXYEAR`. -/
  year : ℕ
  /-- The month, counted from one. -/
  month : ℕ
  /-- The day of the month, counted from one. -/
  day : ℕ
  /-- The constructor accepts years one to 9999. -/
  year_bounds : 1 ≤ year ∧ year ≤ 9999
  /-- The constructor accepts months one to twelve. -/
  month_bounds : 1 ≤ month ∧ month ≤ 12
  /-- The day exists in its month. -/
  day_bounds : 1 ≤ day ∧ day ≤ daysInMonth year month
  deriving DecidableEq

/-- `datetime.date()`. -/
def NaiveDateTime.date (d : NaiveDateTime) : Date :=
  ⟨d.year, d.month, d.day, d.year_bounds, d.month_bounds, d.day_bounds⟩

/-- The first instant of a date. -/
def Date.midnight (d : Date) : NaiveDateTime :=
  ⟨d.year, d.month, d.day, 0, 0, 0, 0, d.year_bounds, d.month_bounds, d.day_bounds, by decide⟩

/-- The time of day in microseconds. -/
def NaiveDateTime.clock (d : NaiveDateTime) : ℕ :=
  ((d.hour * 60 + d.minute) * 60 + d.second) * 1000000 + d.microsecond

/-- The local time in microseconds on the proleptic Gregorian time line. -/
def NaiveDateTime.micros (d : NaiveDateTime) : ℤ :=
  (ymdToOrd d.year d.month d.day : ℤ) * 86400000000 + d.clock

/-- An offset from UTC in microseconds. Drivers report whole seconds and
`fromisoformat` reads an offset of zero seconds as UTC, so no offset lies strictly
between zero and one second. -/
structure UtcOffset where
  /-- The offset, positive to the east. -/
  micros : ℤ
  /-- `timezone` accepts offsets strictly within a day. -/
  within_day : -86400000000 < micros ∧ micros < 86400000000
  /-- A nonzero offset is a second at least. -/
  zero_or_second : micros = 0 ∨ micros ≤ -1000000 ∨ 1000000 ≤ micros
  deriving DecidableEq

/-- A `datetime`: naive when it carries no offset, aware when it does. -/
structure DateTime where
  /-- The local date and time. -/
  naive : NaiveDateTime
  /-- `utcoffset()`, `none` for a naive value. -/
  offset : Option UtcOffset
  deriving DecidableEq

/-- The point on the time line: local time for a naive value, UTC for an aware one. -/
def DateTime.instant (d : DateTime) : ℤ :=
  d.naive.micros - d.offset.elim 0 UtcOffset.micros

/-- A naive local time as a `datetime`. -/
def NaiveDateTime.toDateTime (d : NaiveDateTime) : DateTime := ⟨d, none⟩

/-- The instant of a naive value is its local time. -/
@[simp] theorem NaiveDateTime.instant_toDateTime (d : NaiveDateTime) :
    d.toDateTime.instant = d.micros := by
  simp [NaiveDateTime.toDateTime, DateTime.instant]

/-! ### The day count follows the calendar -/

/-- A month ends no later than any later month of the year starts. -/
theorem monthStart_add_monthLength_le {leap : Bool} {m m' : ℕ} (hm : 1 ≤ m) (hlt : m < m')
    (hm' : m' ≤ 12) : monthStart leap m + monthLength leap m ≤ monthStart leap m' := by
  have hall : ∀ leap, ∀ m' < 13, ∀ m < m', 1 ≤ m →
      monthStart leap m + monthLength leap m ≤ monthStart leap m' := by decide
  exact hall leap m' (by omega) m hlt hm

/-- Every month ends within its year. -/
theorem monthStart_add_monthLength_le_year {leap : Bool} {m : ℕ} (hm : m ≤ 12) :
    monthStart leap m + monthLength leap m ≤ 365 + leap.toNat := by
  have hall : ∀ leap : Bool, ∀ m < 13, monthStart leap m + monthLength leap m ≤
      365 + leap.toNat := by decide
  exact hall leap m (by omega)

/-- A year has 365 days, and one more when it is a leap year. -/
theorem daysBeforeYear_succ {y : ℕ} (hy : 1 ≤ y) :
    daysBeforeYear (y + 1) = daysBeforeYear y + (365 + (isLeap y).toNat) := by
  obtain ⟨x, rfl⟩ : ∃ x, y = x + 1 := ⟨y - 1, by omega⟩
  have h4 : (x + 1) / 4 = x / 4 + if 4 ∣ x + 1 then 1 else 0 := Nat.succ_div
  have h100 : (x + 1) / 100 = x / 100 + if 100 ∣ x + 1 then 1 else 0 := Nat.succ_div
  have h400 : (x + 1) / 400 = x / 400 + if 400 ∣ x + 1 then 1 else 0 := Nat.succ_div
  have hle : x / 100 ≤ x / 4 := Nat.div_le_div_left (by decide) (by decide)
  have hdvd : 100 ∣ x + 1 → 4 ∣ x + 1 := fun h => Dvd.dvd.trans (by decide) h
  have hdvd' : 400 ∣ x + 1 → 100 ∣ x + 1 := fun h => Dvd.dvd.trans (by decide) h
  simp only [daysBeforeYear, isLeap, Nat.add_sub_cancel, ← Nat.dvd_iff_mod_eq_zero, ne_eq]
  rw [h4, h100, h400]
  by_cases d400 : 400 ∣ x + 1
  · simp only [d400, hdvd' d400, hdvd (hdvd' d400), if_true, not_true, false_or, and_true,
      decide_true, Bool.toNat_true]
    omega
  · by_cases d100 : 100 ∣ x + 1
    · simp only [d400, d100, hdvd d100, if_true, if_false, not_true, or_self, and_false,
        decide_false, Bool.toNat_false]
      omega
    · by_cases d4 : 4 ∣ x + 1
      · simp only [d400, d100, d4, if_true, if_false, not_false_iff, or_false, and_self,
          decide_true, Bool.toNat_true]
        omega
      · simp only [d400, d100, d4, if_false, false_and, decide_false, Bool.toNat_false]
        omega

/-- A year ends no later than any later year starts. -/
theorem daysBeforeYear_add_le {y y' : ℕ} (hy : 1 ≤ y) (hlt : y < y') :
    daysBeforeYear y + (365 + (isLeap y).toNat) ≤ daysBeforeYear y' := by
  rw [← daysBeforeYear_succ hy]
  induction y', hlt using Nat.le_induction with
  | base => exact le_rfl
  | succ z hz ih =>
    rw [daysBeforeYear_succ (show 1 ≤ z by omega)]
    omega

/-- No month has more than 31 days. -/
theorem daysInMonth_le (year month : ℕ) : daysInMonth year month ≤ 31 := by
  unfold daysInMonth monthLength
  split <;> (try split) <;> omega

/-- The ordinal of a date is decided by the year, then the month, then the day. -/
theorem ymdToOrd_lt {y m d y' m' d' : ℕ} (hy : 1 ≤ y) (hm : 1 ≤ m ∧ m ≤ 12)
    (hd : d ≤ daysInMonth y m) (hm' : m' ≤ 12) (hd' : 1 ≤ d')
    (h : y < y' ∨ (y = y' ∧ (m < m' ∨ (m = m' ∧ d < d')))) :
    ymdToOrd y m d < ymdToOrd y' m' d' := by
  unfold daysInMonth at hd
  unfold ymdToOrd
  rcases h with hy' | ⟨rfl, hm'' | ⟨rfl, hd''⟩⟩
  · have hyear := daysBeforeYear_add_le hy hy'
    have hmonth := @monthStart_add_monthLength_le_year (isLeap y) m hm.2
    omega
  · have hmonth := @monthStart_add_monthLength_le (isLeap y) m m' hm.1 hm'' hm'
    omega
  · omega

/-- The time of day stays below a day. -/
theorem NaiveDateTime.clock_lt (d : NaiveDateTime) : d.clock < 86400000000 := by
  obtain ⟨hh, hmin, hs, hus⟩ := d.time_bounds
  unfold clock
  omega

/-- A calendar date as one key that year, month and day determine in this order. -/
def NaiveDateTime.dateKey (d : NaiveDateTime) : ℕ := (d.year * 100 + d.month) * 100 + d.day

/-- **Chronological order is calendar order.** Local times compare as the date key
first and the time of day second. -/
theorem NaiveDateTime.micros_lt_iff (a b : NaiveDateTime) :
    a.micros < b.micros ↔ a.dateKey < b.dateKey ∨ (a.dateKey = b.dateKey ∧ a.clock < b.clock) := by
  have ord_lt {a b : NaiveDateTime} (h : a.dateKey < b.dateKey) :
      ymdToOrd a.year a.month a.day < ymdToOrd b.year b.month b.day := by
    have ha := a.day_bounds
    have hb := b.day_bounds
    have hma := a.month_bounds
    have hmb := b.month_bounds
    have hla := daysInMonth_le a.year a.month
    have hlb := daysInMonth_le b.year b.month
    refine ymdToOrd_lt a.year_bounds.1 hma ha.2 hmb.2 hb.1 ?_
    unfold dateKey at h
    omega
  have ha := a.clock_lt
  have hb := b.clock_lt
  unfold micros
  rcases Nat.lt_trichotomy a.dateKey b.dateKey with h | h | h
  · have hord := ord_lt h
    simp only [h, true_or, iff_true]
    omega
  · have hord : ymdToOrd a.year a.month a.day = ymdToOrd b.year b.month b.day := by
      have hfields : a.year = b.year ∧ a.month = b.month ∧ a.day = b.day := by
        have hda := a.day_bounds
        have hdb := b.day_bounds
        have hma := a.month_bounds
        have hmb := b.month_bounds
        have hla := daysInMonth_le a.year a.month
        have hlb := daysInMonth_le b.year b.month
        unfold dateKey at h
        omega
      rw [hfields.1, hfields.2.1, hfields.2.2]
    rw [hord, h]
    simp only [lt_irrefl, true_and, false_or]
    omega
  · have hord := ord_lt h
    have hnot : ¬ a.dateKey < b.dateKey := by omega
    have hne : a.dateKey ≠ b.dateKey := by omega
    simp only [hnot, hne, false_and, or_self, iff_false]
    omega

end BatchIngestion.Python
