import BatchIngestion.Python.Text
import BatchIngestion.Python.Calendar

/-!
# ISO texts of points in time

`datetime.isoformat` and `datetime.fromisoformat` of the standard library. The
reader accepts far more than the writer produces (week dates, missing components,
a single stray character before an offset), and it decides which strings of an
untyped column are taken for timestamps, so it is modelled branch by branch.
-/

namespace BatchIngestion.Python

/-! ### Writing -/

/-- The last `width` decimal digits of a number, as `f"{n:0{width}d}"` prints a
number that fits. -/
def zfill : ℕ → ℕ → Text
  | 0, _ => []
  | w + 1, n => (n / 10 ^ w % 10).digitChar :: zfill w n

/-- The date part `YYYY-MM-DD`. -/
def isoDate (d : NaiveDateTime) : Text :=
  zfill 4 d.year ++ '-' :: (zfill 2 d.month ++ '-' :: zfill 2 d.day)

/-- The fraction of a second, left out when it is zero. -/
def isoFraction (micros : ℕ) : Text := if micros = 0 then [] else '.' :: zfill 6 micros

/-- The time part `HH:MM:SS[.ffffff]`. -/
def isoTime (d : NaiveDateTime) : Text :=
  zfill 2 d.hour ++ ':' :: (zfill 2 d.minute ++ ':' :: (zfill 2 d.second ++
    isoFraction d.microsecond))

/-- The digits of an offset, `HH:MM[:SS[.ffffff]]`, of a number of microseconds. -/
def isoOffsetDigits (micros : ℕ) : Text :=
  let seconds := micros / 1000000
  zfill 2 (seconds / 3600) ++ ':' :: (zfill 2 (seconds / 60 % 60) ++
    if micros % 60000000 = 0 then [] else
      ':' :: (zfill 2 (seconds % 60) ++ isoFraction (micros % 1000000)))

/-- The offset part `+HH:MM[:SS[.ffffff]]`. -/
def isoOffset (o : UtcOffset) : Text :=
  (if o.micros < 0 then '-' else '+') :: isoOffsetDigits o.micros.natAbs

/-- `datetime.isoformat(sep)`. -/
def isoformat (sep : Char) (d : DateTime) : Text :=
  isoDate d.naive ++ sep :: (isoTime d.naive ++ d.offset.elim [] isoOffset)

/-- `date.isoformat()`. -/
def dateIsoformat (d : Date) : Text := isoDate d.midnight

/-! ### Reading -/

/-- The value of an ASCII digit. -/
def asciiDigit (c : Char) : Option ℕ :=
  if 48 ≤ c.toNat ∧ c.toNat ≤ 57 then some (c.toNat - 48) else none

/-- `parse_digits`: exactly `count` ASCII digits, accumulated onto a value. -/
def readDigits : ℕ → ℕ → Text → Option (ℕ × Text)
  | 0, value, t => some (value, t)
  | _ + 1, _, [] => none
  | count + 1, value, c :: t => (asciiDigit c).bind fun d => readDigits count (10 * value + d) t

/-- `_find_isoformat_datetime_separator`: where the date part ends. -/
def separatorIndex (s : Text) : Option ℕ :=
  if s.length = 7 then some 7
  else if s[4]? = some '-' then
    if s[5]? = some 'W' then
      if s[8]? = some '-' then
        if s.length = 9 then none
        else if (s[10]?.bind asciiDigit).isSome then some 8
        else some 10
      else some 8
    else some 10
  else if s[4]? = some 'W' then
    let digits := ((s.drop 7).takeWhile fun c => (asciiDigit c).isSome).length
    if digits < 2 then some (7 + digits)
    else if (7 + digits) % 2 = 0 then some 7
    else some 8
  else some 8

/-- `ord_to_ymd`: the date of a proleptic Gregorian ordinal. -/
def ordToYmd (ordinal : ℕ) : ℕ × ℕ × ℕ :=
  let n := ordinal - 1
  let n400 := n / 146097
  let n := n % 146097
  let n100 := n / 36524
  let n := n % 36524
  let n4 := n / 1461
  let n := n % 1461
  let n1 := n / 365
  let n := n % 365
  let year := n400 * 400 + 1 + n100 * 100 + n4 * 4 + n1
  if n1 = 4 ∨ n100 = 4 then (year - 1, 12, 31)
  else
    let month := (n + 50) / 32
    let month := if n < monthStart (isLeap year) month then month - 1 else month
    (year, month, n - monthStart (isLeap year) month + 1)

/-- `iso_to_ymd`: the date of a day of an ISO week. -/
def isoToYmd (year week day : ℕ) : Option (ℕ × ℕ × ℕ) :=
  let first := ymdToOrd year 1 1
  let weekday := (first + 6) % 7
  let longYear := weekday = 3 ∨ (weekday = 2 ∧ isLeap year)
  if year = 0 then none
  else if week = 0 ∨ 53 < week ∨ (week = 53 ∧ ¬ longYear) then none
  else if day = 0 ∨ 7 < day then none
  else
    let monday := first + (if 3 < weekday then 7 else 0) - weekday
    some (ordToYmd (monday + (week - 1) * 7 + day - 1))

/-- Skip the dash between two components when the date part uses dashes. -/
def skipDash (dashes : Bool) : Text → Option Text
  | '-' :: t => if dashes then some t else some ('-' :: t)
  | t => if dashes then none else some t

/-- `parse_isoformat_date`: year, month and day of the date part. -/
def parseIsoDate (t : Text) : Option (ℕ × ℕ × ℕ) := do
  let (year, rest) ← readDigits 4 0 t
  let dashes := rest.head? == some '-'
  let rest := if dashes then rest.tail else rest
  match rest with
  | 'W' :: rest =>
    let (week, rest) ← readDigits 2 0 rest
    if rest.isEmpty then isoToYmd year week 1
    else
      let rest ← skipDash dashes rest
      let (day, _) ← readDigits 1 0 rest
      isoToYmd year week day
  | rest =>
    let (month, rest) ← readDigits 2 0 rest
    let rest ← skipDash dashes rest
    let (day, _) ← readDigits 2 0 rest
    some (year, month, day)

/-- `date.fromisoformat(s)`; `none` is the `ValueError`. -/
def dateFromisoformat (s : Text) : Option Date :=
  if s.length = 7 ∨ s.length = 8 ∨ s.length = 10 then
    (parseIsoDate s).bind fun (year, month, day) =>
      (NaiveDateTime.mk? year month day 0 0 0 0).map NaiveDateTime.date
  else none

/-- The fractional part of a second: up to six digits count, later ones are cut off.
The flag tells that something is left before the end of the whole text. -/
def parseFraction (more : Bool) (t : Text) : Option (ℕ × Bool) :=
  let count := min 6 t.length
  (readDigits count 0 t).map fun (value, rest) =>
    (value * 10 ^ (6 - count), !(rest.dropWhile fun c => (asciiDigit c).isSome).isEmpty || more)

/-- `parse_hh_mm_ss_ff`: at most `count` two-digit components and a fraction. The
flag `more` tells that an offset follows the text; the flag of the result tells that
the components stop before the end of the whole text. -/
def parseComponents (more : Bool) : ℕ → Bool → Text → Option (List ℕ × ℕ × Bool)
  | 0, _, t => (parseFraction more t).map fun (micros, left) => ([], micros, left)
  | count + 1, colons, t => do
    let (value, rest) ← readDigits 2 0 t
    match rest with
    | [] => some ([value], 0, more)
    | [c] => if c.toNat < 128 then some ([value], 0, true) else none
    | c :: rest =>
      let colons := if count = 2 then c == ':' else colons
      if colons && c == ':' then
        (parseComponents more count colons rest).map fun (values, r) => (value :: values, r)
      else if c == '.' || c == ',' then
        (parseFraction more rest).map fun (micros, left) => ([value], micros, left)
      else if colons then none
      else
        (parseComponents more count colons (c :: rest)).map fun (values, r) =>
          (value :: values, r)

/-- The characters that start an offset. -/
def isOffsetSign (c : Char) : Bool := c == '+' || c == '-' || c == 'Z'

/-- The offset of a sign and the components after it; zero seconds are UTC. -/
def signedOffset (sign : Char) (values : List ℕ) (micros : ℕ) : ℤ :=
  let seconds := values.getD 0 0 * 3600 + values.getD 1 0 * 60 + values.getD 2 0
  if seconds = 0 then 0
  else if sign == '-' then -((seconds * 1000000 + micros : ℕ) : ℤ)
  else ((seconds * 1000000 + micros : ℕ) : ℤ)

/-- `parse_isoformat_time`: the time of day and the offset, if there is one. -/
def parseIsoTime (t : Text) : Option (List ℕ × ℕ × Option ℤ) := do
  let after := t.dropWhile fun c => !isOffsetSign c
  let (values, micros, left) ←
    parseComponents (!after.isEmpty) 3 true (t.takeWhile fun c => !isOffsetSign c)
  match after with
  | [] => if left then none else some (values, micros, none)
  | sign :: rest =>
    if sign == 'Z' then
      if rest.isEmpty then some (values, micros, some 0) else none
    else
      let (offsets, offsetMicros, left) ← parseComponents false 3 true rest
      if left then none
      else some (values, micros, some (signedOffset sign offsets offsetMicros))

/-- The check of the `timezone` constructor; `none` is its `ValueError`. -/
def UtcOffset.mk? (micros : ℤ) : Option UtcOffset :=
  if h : -86400000000 < micros ∧ micros < 86400000000 then
    if h' : micros = 0 ∨ micros ≤ -1000000 ∨ 1000000 ≤ micros then some ⟨micros, h, h'⟩
    else none
  else none

/-- `datetime.fromisoformat(s)`; `none` is the `ValueError`. -/
def fromisoformat (s : Text) : Option DateTime := do
  if s.length < 7 then none
  else
    let index ← separatorIndex s
    let (year, month, day) ← parseIsoDate (s.take index)
    let (values, micros, offset) ←
      match s.drop index with
      | [] => some ([], 0, none)
      | _ :: t => parseIsoTime t
    let naive ← NaiveDateTime.mk? year month day (values.getD 0 0) (values.getD 1 0)
      (values.getD 2 0) micros
    match offset with
    | none => some ⟨naive, none⟩
    | some offset => (UtcOffset.mk? offset).map fun o => ⟨naive, some o⟩

end BatchIngestion.Python
