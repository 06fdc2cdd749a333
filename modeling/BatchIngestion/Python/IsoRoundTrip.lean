import BatchIngestion.Python.IsoFormat

/-!
# Reading back an ISO text

`fromisoformat` inverts `isoformat`, for every separator, with and without
microseconds and offset. Each part of the text is read back by one lemma, and the
parts are put together at the end.
-/

namespace BatchIngestion.Python

/-! ### Fixed-width digits -/

/-- A text of fixed width has that many characters. -/
@[simp] theorem zfill_length (w n : ℕ) : (zfill w n).length = w := by
  induction w with
  | zero => rfl
  | succ w ih => simp [zfill, ih]

/-- A text of fixed width consists of digits. -/
theorem exists_digitChar_of_mem_zfill {w n : ℕ} {c : Char} (hc : c ∈ zfill w n) :
    ∃ d < 10, c = d.digitChar := by
  induction w with
  | zero => simp [zfill] at hc
  | succ w ih =>
    rcases List.mem_cons.mp hc with rfl | hc
    · exact ⟨n / 10 ^ w % 10, Nat.mod_lt _ (by decide), rfl⟩
    · exact ih hc

/-- An ASCII digit has its value. -/
theorem asciiDigit_digitChar {d : ℕ} (hd : d < 10) : asciiDigit d.digitChar = some d := by
  revert d
  decide

/-- A digit is none of the characters that structure an ISO text. -/
theorem digitChar_ne_mark {d : ℕ} (hd : d < 10) :
    d.digitChar ≠ 'W' ∧ d.digitChar ≠ '-' ∧ d.digitChar ≠ ':' ∧ d.digitChar ≠ '.' ∧
      isOffsetSign d.digitChar = false := by
  revert d
  decide

/-- Reading as many digits as were written gives the number modulo its width. -/
theorem readDigits_zfill (w n value : ℕ) (t : Text) :
    readDigits w value (zfill w n ++ t) = some (value * 10 ^ w + n % 10 ^ w, t) := by
  induction w generalizing value with
  | zero => simp [readDigits, zfill, Nat.mod_one]
  | succ w ih =>
    rw [zfill, List.cons_append, readDigits,
      asciiDigit_digitChar (Nat.mod_lt _ (by decide)), Option.bind_some, ih, Nat.mod_pow_succ]
    congr 2
    ring

/-- A number that fits its width is read back. -/
theorem readDigits_zfill_of_lt {w n : ℕ} (hn : n < 10 ^ w) (t : Text) :
    readDigits w 0 (zfill w n ++ t) = some (n, t) := by
  rw [readDigits_zfill, Nat.zero_mul, Nat.zero_add, Nat.mod_eq_of_lt hn]

/-! ### The date part -/

/-- The date part has ten characters. -/
@[simp] theorem isoDate_length (d : NaiveDateTime) : (isoDate d).length = 10 := by
  simp [isoDate]

/-- The date part is read back. -/
theorem parseIsoDate_isoDate (d : NaiveDateTime) :
    parseIsoDate (isoDate d) = some (d.year, d.month, d.day) := by
  have hyear : d.year < 10 ^ 4 := by have := d.year_bounds; omega
  have hmonth : d.month < 10 ^ 2 := by have := d.month_bounds; omega
  have hday : d.day < 10 ^ 2 := by
    have := d.day_bounds
    have := daysInMonth_le d.year d.month
    omega
  have hread := readDigits_zfill_of_lt hday []
  rw [List.append_nil] at hread
  have hdigit := (digitChar_ne_mark (Nat.mod_lt (d.month / 10 ^ 1) (by decide : 0 < 10))).1
  rw [parseIsoDate, isoDate, readDigits_zfill_of_lt hyear]
  simp only [Option.bind_eq_bind, Option.bind_some, List.head?_cons, beq_self_eq_true, if_true,
    List.tail_cons]
  -- The month starts with a digit, so the week branch is not taken.
  split
  · rename_i rest heq
    simp only [zfill, List.cons_append, List.cons.injEq] at heq
    exact absurd heq.1 hdigit
  · simp [readDigits_zfill_of_lt hmonth, skipDash, hread]

/-- The date part ends at the tenth character. -/
theorem separatorIndex_isoDate (d : NaiveDateTime) (sep : Char) (t : Text) :
    separatorIndex (isoDate d ++ sep :: t) = some 10 := by
  have hlength : (isoDate d ++ sep :: t).length ≠ 7 := by
    simp only [List.length_append, isoDate_length, List.length_cons]
    omega
  have hdash : (isoDate d ++ sep :: t)[4]? = some '-' := rfl
  have hmonth : (isoDate d ++ sep :: t)[5]? = some (d.month / 10 ^ 1 % 10).digitChar := rfl
  rw [separatorIndex, if_neg hlength, if_pos hdash, if_neg (by simp [hmonth])]

/-! ### The time part -/

/-- A component that a colon and more text follow is read and the rest is left for
the next components. -/
theorem parseComponents_zfill_colon {more : Bool} {count n : ℕ} {colons : Bool}
    (hcolons : count = 2 ∨ colons = true) (hn : n < 10 ^ 2) {t : Text} (ht : t ≠ []) :
    parseComponents more (count + 1) colons (zfill 2 n ++ ':' :: t) =
      (parseComponents more count true t).map fun (values, r) => (n :: values, r) := by
  have hcolon : (if count = 2 then true else colons) = true := by
    rcases hcolons with hcount | hcolons
    · rw [if_pos hcount]
    · rw [hcolons, ite_self]
  cases t with
  | nil => exact absurd rfl ht
  | cons c t =>
    rw [parseComponents, readDigits_zfill_of_lt hn]
    simp only [Option.bind_eq_bind, Option.bind_some, beq_self_eq_true, hcolon, Bool.and_self,
      if_true]

/-- A last component without fraction. -/
theorem parseComponents_zfill {more : Bool} {count n : ℕ} {colons : Bool} (hn : n < 10 ^ 2) :
    parseComponents more (count + 1) colons (zfill 2 n) = some ([n], 0, more) := by
  have hread := readDigits_zfill_of_lt hn []
  rw [List.append_nil] at hread
  rw [parseComponents, hread]
  rfl

/-- A last component with its fraction, which may be empty. -/
theorem parseComponents_zfill_fraction {more : Bool} {n micros : ℕ} (hn : n < 10 ^ 2)
    (hmicros : micros < 10 ^ 6) :
    parseComponents more 1 true (zfill 2 n ++ isoFraction micros) = some ([n], micros, more) := by
  unfold isoFraction
  split
  · rename_i hzero
    rw [List.append_nil, parseComponents_zfill hn, hzero]
  · have hread := readDigits_zfill_of_lt hmicros []
    rw [List.append_nil] at hread
    have hfraction : parseFraction more (zfill 6 micros) = some (micros, more) := by
      simp [parseFraction, hread]
    rw [parseComponents, readDigits_zfill_of_lt hn]
    have hcons : ∃ c t, zfill 6 micros = c :: t := ⟨_, _, rfl⟩
    obtain ⟨c, t, hct⟩ := hcons
    rw [hct] at hfraction ⊢
    simp [hfraction]

/-- The time part is read back. -/
theorem parseComponents_isoTime (more : Bool) (d : NaiveDateTime) :
    parseComponents more 3 true (isoTime d) =
      some ([d.hour, d.minute, d.second], d.microsecond, more) := by
  obtain ⟨hhour, hminute, hsecond, hmicros⟩ := d.time_bounds
  rw [isoTime, parseComponents_zfill_colon (.inl rfl) (by omega) (by simp [zfill]),
    parseComponents_zfill_colon (.inr rfl) (by omega) (by simp [zfill]),
    parseComponents_zfill_fraction (by omega) hmicros]
  rfl

/-- The digits of an offset are read back as hours, minutes, seconds and microseconds. -/
theorem parseComponents_isoOffsetDigits {micros : ℕ} (h : micros < 86400000000) :
    ∃ values, parseComponents false 3 true (isoOffsetDigits micros) =
        some (values, micros % 1000000, false) ∧
      values.getD 0 0 * 3600 + values.getD 1 0 * 60 + values.getD 2 0 = micros / 1000000 := by
  have hhour : micros / 1000000 / 3600 < 10 ^ 2 := by omega
  have hminute : micros / 1000000 / 60 % 60 < 10 ^ 2 := by omega
  rw [isoOffsetDigits, parseComponents_zfill_colon (.inl rfl) hhour (by simp [zfill])]
  by_cases hzero : micros % 60000000 = 0
  · refine ⟨[micros / 1000000 / 3600, micros / 1000000 / 60 % 60], ?_, ?_⟩
    · rw [if_pos hzero, List.append_nil, parseComponents_zfill hminute]
      simp only [Option.map_some, Option.some.injEq, Prod.mk.injEq, and_true, true_and]
      omega
    · simp only [List.getD_cons_zero, List.getD_cons_succ, List.getD_nil]
      omega
  · refine ⟨[micros / 1000000 / 3600, micros / 1000000 / 60 % 60, micros / 1000000 % 60], ?_, ?_⟩
    · rw [if_neg hzero, parseComponents_zfill_colon (.inr rfl) hminute (by simp [zfill]),
        parseComponents_zfill_fraction (by omega) (by omega)]
      rfl
    · simp only [List.getD_cons_zero, List.getD_cons_succ]
      omega

/-! ### The whole text -/

/-- The time part holds no character that starts an offset. -/
theorem isOffsetSign_of_mem_isoTime {d : NaiveDateTime} {c : Char} (hc : c ∈ isoTime d) :
    isOffsetSign c = false := by
  have hdigits : ∀ {w n : ℕ}, c ∈ zfill w n → isOffsetSign c = false := by
    intro w n hmem
    obtain ⟨k, hk, rfl⟩ := exists_digitChar_of_mem_zfill hmem
    exact (digitChar_ne_mark hk).2.2.2.2
  simp only [isoTime, isoFraction, List.mem_append, List.mem_cons] at hc
  rcases hc with hc | rfl | hc | rfl | hc | hc
  · exact hdigits hc
  · decide
  · exact hdigits hc
  · decide
  · exact hdigits hc
  · split at hc
    · simp at hc
    · rcases List.mem_cons.mp hc with rfl | hc
      · decide
      · exact hdigits hc

/-- The offset text starts with its sign. -/
theorem isoOffset_eq (o : UtcOffset) :
    ∃ sign, isOffsetSign sign = true ∧ sign ≠ 'Z' ∧ isoOffset o = sign :: isoOffsetDigits
      o.micros.natAbs ∧ (sign == '-') = decide (o.micros < 0) := by
  by_cases hneg : o.micros < 0
  · exact ⟨'-', by decide, by decide, by simp [isoOffset, hneg], by simp [hneg]⟩
  · exact ⟨'+', by decide, by decide, by simp [isoOffset, hneg], by simp [hneg]⟩

/-- The signed components of an offset text are the offset. -/
theorem signedOffset_eq {o : UtcOffset} {sign : Char} {values : List ℕ}
    (hsign : (sign == '-') = decide (o.micros < 0))
    (hvalues : values.getD 0 0 * 3600 + values.getD 1 0 * 60 + values.getD 2 0 =
      o.micros.natAbs / 1000000) :
    signedOffset sign values (o.micros.natAbs % 1000000) = o.micros := by
  have hrange := o.zero_or_second
  rw [signedOffset, hvalues, hsign]
  by_cases hneg : o.micros < 0
  · simp only [hneg, decide_true, if_true]
    split <;> omega
  · simp only [hneg, decide_false, Bool.false_eq_true, if_false]
    split <;> omega

/-- An offset is accepted by the constructor. -/
@[simp] theorem UtcOffset.mk?_micros (o : UtcOffset) : UtcOffset.mk? o.micros = some o := by
  rw [mk?, dif_pos o.within_day, dif_pos o.zero_or_second]

/-- Time and offset are read back together. -/
theorem parseIsoTime_isoTime (d : DateTime) :
    parseIsoTime (isoTime d.naive ++ d.offset.elim [] isoOffset) =
      some ([d.naive.hour, d.naive.minute, d.naive.second], d.naive.microsecond,
        d.offset.map UtcOffset.micros) := by
  have hnosign : ∀ c ∈ isoTime d.naive, (!isOffsetSign c) = true := by
    intro c hc
    simp [isOffsetSign_of_mem_isoTime hc]
  rw [parseIsoTime]
  cases hoffset : d.offset with
  | none =>
    have htake : (isoTime d.naive).takeWhile (fun c => !isOffsetSign c) = isoTime d.naive :=
      List.takeWhile_eq_self_iff.mpr hnosign
    have hdrop : (isoTime d.naive).dropWhile (fun c => !isOffsetSign c) = [] :=
      List.dropWhile_eq_nil_iff.mpr hnosign
    simp [htake, hdrop, parseComponents_isoTime]
  | some o =>
    obtain ⟨sign, hsign, hZ, htext, hminus⟩ := isoOffset_eq o
    have hbound : o.micros.natAbs < 86400000000 := by have := o.within_day; omega
    obtain ⟨values, hvalues, hsum⟩ := parseComponents_isoOffsetDigits hbound
    have htake : (isoTime d.naive ++ isoOffset o).takeWhile (fun c => !isOffsetSign c) =
        isoTime d.naive := by
      rw [List.takeWhile_append_of_pos hnosign, htext]
      simp [hsign]
    have hdrop : (isoTime d.naive ++ isoOffset o).dropWhile (fun c => !isOffsetSign c) =
        sign :: isoOffsetDigits o.micros.natAbs := by
      rw [List.dropWhile_append_of_pos hnosign, htext]
      simp [hsign]
    simp [htake, hdrop, parseComponents_isoTime, hvalues, hZ, signedOffset_eq hminus hsum]

/-- **ISO texts are read back.** `fromisoformat` inverts `isoformat` for every
separator. -/
theorem fromisoformat_isoformat (sep : Char) (d : DateTime) :
    fromisoformat (isoformat sep d) = some d := by
  have hlength : ¬ (isoformat sep d).length < 7 := by
    simp only [isoformat, List.length_append, isoDate_length]
    omega
  have htake : (isoformat sep d).take 10 = isoDate d.naive := by
    rw [isoformat, List.take_left' (isoDate_length _)]
  have hdrop : (isoformat sep d).drop 10 =
      sep :: (isoTime d.naive ++ d.offset.elim [] isoOffset) := by
    rw [isoformat, List.drop_left' (isoDate_length _)]
  rw [fromisoformat, if_neg hlength, show separatorIndex (isoformat sep d) = some 10 from
    separatorIndex_isoDate _ _ _]
  simp only [Option.bind_eq_bind, Option.bind_some, htake, hdrop, parseIsoDate_isoDate,
    parseIsoTime_isoTime, List.getD_cons_zero, List.getD_cons_succ, NaiveDateTime.mk?_fields]
  obtain ⟨naive, offset⟩ := d
  cases offset <;> simp

/-- A date is read back from its ISO text. -/
@[simp] theorem dateFromisoformat_dateIsoformat (d : Date) :
    dateFromisoformat (dateIsoformat d) = some d := by
  have hmk := NaiveDateTime.mk?_fields d.midnight
  simp only [dateFromisoformat, dateIsoformat, isoDate_length, or_true, if_true,
    parseIsoDate_isoDate, Option.bind_some]
  exact congrArg (Option.map NaiveDateTime.date) hmk

end BatchIngestion.Python
