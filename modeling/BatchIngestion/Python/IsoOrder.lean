import BatchIngestion.Library.TextOrder
import BatchIngestion.Python.IsoRoundTrip

/-!
# The text order of ISO timestamps

A query that compares two timestamp literals with each other compares texts. For
timestamps printed with one separator, the code point order of the texts is the order
of the local times, although the fraction of a second is optional, and then that of the
texts of the offsets. For naive timestamps this is the order of time.
-/

namespace BatchIngestion.Python

open Library

/-- Digit characters are ordered as the digits are. -/
theorem digitChar_lt_iff {i j : ℕ} (hi : i < 10) (hj : j < 10) :
    i.digitChar < j.digitChar ↔ i < j := by
  have hall : ∀ i < 10, ∀ j < 10, (i.digitChar < j.digitChar ↔ i < j) := by decide
  exact hall i hi j hj

/-- Different digits have different characters. -/
theorem digitChar_inj {i j : ℕ} (hi : i < 10) (hj : j < 10) :
    i.digitChar = j.digitChar ↔ i = j := by
  have hall : ∀ i < 10, ∀ j < 10, (i.digitChar = j.digitChar ↔ i = j) := by decide
  exact hall i hi j hj

/-- Texts of one width are ordered as the numbers modulo the width. -/
theorem zfill_lt_iff_mod (w a b : ℕ) :
    zfill w a < zfill w b ↔ a % 10 ^ w < b % 10 ^ w := by
  induction w with
  | zero => simp [zfill, Nat.mod_one]
  | succ w ih =>
    have hpos : 0 < 10 ^ w := by positivity
    have ha := Nat.mod_lt a hpos
    have hb := Nat.mod_lt b hpos
    have hdigit (n : ℕ) : n / 10 ^ w % 10 < 10 := Nat.mod_lt _ (by decide)
    rw [zfill, zfill, List.cons_lt_cons_iff, digitChar_lt_iff (hdigit a) (hdigit b),
      digitChar_inj (hdigit a) (hdigit b), ih, Nat.mod_pow_succ, Nat.mod_pow_succ]
    generalize a % 10 ^ w = x at *
    generalize b % 10 ^ w = y at *
    generalize a / 10 ^ w % 10 = u at *
    generalize b / 10 ^ w % 10 = v at *
    generalize 10 ^ w = p at *
    rcases Nat.lt_trichotomy u v with huv | rfl | huv
    · have hmul : p * u + p ≤ p * v := by nlinarith
      simp only [huv, true_or, true_iff]
      omega
    · simp
    · have hmul : p * v + p ≤ p * u := by nlinarith
      simp only [not_lt.mpr huv.le, (Nat.ne_of_lt huv).symm, false_and, or_self, false_iff]
      omega

/-- Texts of one width that fit are ordered as the numbers. -/
theorem zfill_lt_iff {w a b : ℕ} (ha : a < 10 ^ w) (hb : b < 10 ^ w) :
    zfill w a < zfill w b ↔ a < b := by
  rw [zfill_lt_iff_mod, Nat.mod_eq_of_lt ha, Nat.mod_eq_of_lt hb]

/-- Texts of one width that fit determine the numbers. -/
theorem zfill_inj {w a b : ℕ} (ha : a < 10 ^ w) (hb : b < 10 ^ w) :
    zfill w a = zfill w b ↔ a = b := by
  constructor
  · intro h
    have hread := readDigits_zfill_of_lt ha []
    rw [h, readDigits_zfill_of_lt hb] at hread
    simpa using hread.symm
  · rintro rfl
    rfl

/-- The date parts are ordered as the dates. -/
theorem isoDate_lt_iff (a b : NaiveDateTime) :
    isoDate a < isoDate b ↔ a.dateKey < b.dateKey := by
  have hya := a.year_bounds
  have hyb := b.year_bounds
  have hma := a.month_bounds
  have hmb := b.month_bounds
  have hda := a.day_bounds
  have hdb := b.day_bounds
  have hla := daysInMonth_le a.year a.month
  have hlb := daysInMonth_le b.year b.month
  simp only [isoDate, append_lt_append_iff, zfill_length, cons_lt_cons_same_iff,
    zfill_lt_iff (show a.year < 10 ^ 4 by omega) (show b.year < 10 ^ 4 by omega),
    zfill_inj (show a.year < 10 ^ 4 by omega) (show b.year < 10 ^ 4 by omega),
    zfill_lt_iff (show a.month < 10 ^ 2 by omega) (show b.month < 10 ^ 2 by omega),
    zfill_inj (show a.month < 10 ^ 2 by omega) (show b.month < 10 ^ 2 by omega),
    zfill_lt_iff (show a.day < 10 ^ 2 by omega) (show b.day < 10 ^ 2 by omega)]
  unfold NaiveDateTime.dateKey
  omega

/-- The date parts determine the dates. -/
theorem isoDate_eq_iff (a b : NaiveDateTime) :
    isoDate a = isoDate b ↔ a.dateKey = b.dateKey := by
  have hlt := isoDate_lt_iff a b
  have hgt := isoDate_lt_iff b a
  constructor
  · intro h
    rw [h] at hlt hgt
    simp only [lt_irrefl, false_iff] at hlt hgt
    omega
  · intro h
    rcases lt_trichotomy (isoDate a) (isoDate b) with hab | hab | hab
    · exact absurd (hlt.mp hab) (by omega)
    · exact hab
    · exact absurd (hgt.mp hab) (by omega)

/-- Fractions with texts after them are ordered as the fractions first: whatever follows a
second starts before the dot of a fraction. -/
theorem isoFraction_append_lt_iff {a b : ℕ} (ha : a < 10 ^ 6) (hb : b < 10 ^ 6) {s t : Text}
    (hs : ∀ c ∈ s.head?, c < '.') (ht : ∀ c ∈ t.head?, c < '.') :
    isoFraction a ++ s < isoFraction b ++ t ↔ a < b ∨ (a = b ∧ s < t) := by
  have hdot {u v : Text} (hu : ∀ c ∈ u.head?, c < '.') : u < '.' :: v := by
    cases u with
    | nil => simp
    | cons c u => exact List.cons_lt_cons_iff.mpr (.inl (hu c rfl))
  unfold isoFraction
  by_cases hza : a = 0 <;> by_cases hzb : b = 0
  · simp [hza, hzb]
  · simp [hza, hzb, Nat.pos_of_ne_zero hzb, hdot hs]
  · simp only [hza, hzb, if_false, if_true, List.nil_append, List.cons_append, Nat.not_lt_zero,
      false_and, or_self, iff_false, not_lt]
    exact (hdot ht).le
  · rw [if_neg hza, if_neg hzb, List.cons_append, List.cons_append, cons_lt_cons_same_iff,
      append_lt_append_iff (by simp), zfill_lt_iff ha hb, zfill_inj ha hb]

/-- Fractions are ordered as their microseconds: a missing fraction comes first. -/
theorem isoFraction_lt_iff {a b : ℕ} (ha : a < 10 ^ 6) (hb : b < 10 ^ 6) :
    isoFraction a < isoFraction b ↔ a < b := by
  have h := isoFraction_append_lt_iff (s := []) (t := []) ha hb (by simp) (by simp)
  simpa using h

/-- Time parts with texts after them are ordered as the times of day first. -/
theorem isoTime_append_lt_iff (a b : NaiveDateTime) {s t : Text} (hs : ∀ c ∈ s.head?, c < '.')
    (ht : ∀ c ∈ t.head?, c < '.') :
    isoTime a ++ s < isoTime b ++ t ↔ a.clock < b.clock ∨ (a.clock = b.clock ∧ s < t) := by
  obtain ⟨hha, hmina, hsa, husa⟩ := a.time_bounds
  obtain ⟨hhb, hminb, hsb, husb⟩ := b.time_bounds
  simp only [isoTime, List.append_assoc, List.cons_append, append_lt_append_iff, zfill_length,
    cons_lt_cons_same_iff,
    zfill_lt_iff (show a.hour < 10 ^ 2 by omega) (show b.hour < 10 ^ 2 by omega),
    zfill_inj (show a.hour < 10 ^ 2 by omega) (show b.hour < 10 ^ 2 by omega),
    zfill_lt_iff (show a.minute < 10 ^ 2 by omega) (show b.minute < 10 ^ 2 by omega),
    zfill_inj (show a.minute < 10 ^ 2 by omega) (show b.minute < 10 ^ 2 by omega),
    zfill_lt_iff (show a.second < 10 ^ 2 by omega) (show b.second < 10 ^ 2 by omega),
    zfill_inj (show a.second < 10 ^ 2 by omega) (show b.second < 10 ^ 2 by omega),
    isoFraction_append_lt_iff husa husb hs ht]
  unfold NaiveDateTime.clock
  by_cases hst : s < t
  · simp only [hst, and_true]
    omega
  · simp only [hst, and_false, or_false]
    omega

/-! ### Offsets -/

/-- The digits of offsets are ordered as the offsets: missing seconds come first. -/
theorem isoOffsetDigits_lt_iff {m n : ℕ} (hm : m < 86400000000) (hn : n < 86400000000) :
    isoOffsetDigits m < isoOffsetDigits n ↔ m < n := by
  have hseconds : ((if m % 60000000 = 0 then [] else
        ':' :: (zfill 2 (m / 1000000 % 60) ++ isoFraction (m % 1000000)) : Text) <
      if n % 60000000 = 0 then [] else
        ':' :: (zfill 2 (n / 1000000 % 60) ++ isoFraction (n % 1000000))) ↔
      m % 60000000 < n % 60000000 := by
    by_cases hzm : m % 60000000 = 0 <;> by_cases hzn : n % 60000000 = 0
    · simp [hzm, hzn]
    · simp [hzm, hzn, Nat.pos_of_ne_zero hzn]
    · simp [hzm, hzn]
    · rw [if_neg hzm, if_neg hzn, cons_lt_cons_same_iff, append_lt_append_iff (by simp),
        zfill_lt_iff (by omega) (by omega), zfill_inj (by omega) (by omega),
        isoFraction_lt_iff (by omega) (by omega)]
      omega
  simp only [isoOffsetDigits, append_lt_append_iff, zfill_length, cons_lt_cons_same_iff, hseconds,
    zfill_lt_iff (show m / 1000000 / 3600 < 10 ^ 2 by omega)
      (show n / 1000000 / 3600 < 10 ^ 2 by omega),
    zfill_inj (show m / 1000000 / 3600 < 10 ^ 2 by omega)
      (show n / 1000000 / 3600 < 10 ^ 2 by omega),
    zfill_lt_iff (show m / 1000000 / 60 % 60 < 10 ^ 2 by omega)
      (show n / 1000000 / 60 % 60 < 10 ^ 2 by omega),
    zfill_inj (show m / 1000000 / 60 % 60 < 10 ^ 2 by omega)
      (show n / 1000000 / 60 % 60 < 10 ^ 2 by omega)]
  omega

/-- The text of an offset, empty for a naive value. -/
def offsetText (offset : Option UtcOffset) : Text := offset.elim [] isoOffset

/-- The text of an offset starts with its sign, before a dot. -/
theorem offsetText_head {offset : Option UtcOffset} : ∀ c ∈ (offsetText offset).head?, c < '.' := by
  intro c hc
  cases offset with
  | none => simp [offsetText] at hc
  | some o =>
    obtain rfl : (if o.micros < 0 then '-' else '+') = c := by
      simpa [offsetText, isoOffset] using hc
    split <;> decide

/-- Of two offsets, the text of the greater one comes first exactly when the other one is
negative. -/
theorem isoOffset_lt_iff {o p : UtcOffset} (h : p.micros < o.micros) :
    isoOffset o < isoOffset p ↔ p.micros < 0 := by
  have ho := o.within_day
  have hp := p.within_day
  have hdigits := isoOffsetDigits_lt_iff (m := o.micros.natAbs) (n := p.micros.natAbs) (by omega)
    (by omega)
  unfold isoOffset
  by_cases hneg : p.micros < 0
  · by_cases hneg' : o.micros < 0
    · rw [if_pos hneg, if_pos hneg', cons_lt_cons_same_iff, hdigits]
      omega
    · rw [if_pos hneg, if_neg hneg']
      simp only [hneg, iff_true]
      exact List.cons_lt_cons_iff.mpr (.inl (by decide))
  · rw [if_neg hneg, if_neg (by omega), cons_lt_cons_same_iff, hdigits]
    omega

/-! ### Timestamps -/

/-- **Text order compares local times**, and offset texts when the local times agree. -/
theorem isoformat_lt_isoformat_iff (sep : Char) (a b : DateTime) :
    isoformat sep a < isoformat sep b ↔ a.naive.micros < b.naive.micros ∨
      (a.naive.micros = b.naive.micros ∧ offsetText a.offset < offsetText b.offset) := by
  have hlt := NaiveDateTime.micros_lt_iff a.naive b.naive
  have hgt := NaiveDateTime.micros_lt_iff b.naive a.naive
  have heq : a.naive.micros = b.naive.micros ↔
      a.naive.dateKey = b.naive.dateKey ∧ a.naive.clock = b.naive.clock := by
    omega
  have htext (d : DateTime) :
      isoformat sep d = isoDate d.naive ++ sep :: (isoTime d.naive ++ offsetText d.offset) := rfl
  have hlength : (isoDate a.naive).length = (isoDate b.naive).length := by
    rw [isoDate_length, isoDate_length]
  rw [htext a, htext b, append_lt_append_iff hlength, cons_lt_cons_same_iff,
    isoTime_append_lt_iff a.naive b.naive offsetText_head offsetText_head, isoDate_lt_iff,
    isoDate_eq_iff, hlt, heq, and_or_left, or_assoc, and_assoc]

/-- **Text order is the order of time** for naive timestamps. -/
theorem isoformat_lt_iff (sep : Char) (a b : NaiveDateTime) :
    isoformat sep a.toDateTime < isoformat sep b.toDateTime ↔ a.micros < b.micros := by
  rw [isoformat_lt_isoformat_iff]
  simp [NaiveDateTime.toDateTime]

end BatchIngestion.Python
