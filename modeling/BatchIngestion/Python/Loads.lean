import BatchIngestion.Python.JsonRoundTrip
import BatchIngestion.Python.Numeral
import BatchIngestion.Python.Value

/-!
# Reading JSON values

`json.loads` for whole values, with control characters in strings as under `strict=False`.
A number with a point or an exponent is read as the floating point number nearest to it,
whose text a parameter gives. What `json.dumps` writes is read back as what was written,
with the texts of objects that only `default=str` could write.
-/

namespace BatchIngestion.Python

/-! ### Numbers -/

/-- The digits at the start of a text, and what follows them. -/
def spanDigits (t : Text) : Text × Text := (t.takeWhile isJsonDigit, t.dropWhile isJsonDigit)

/-- An optional minus sign. -/
def readMinus : Text → Text × Text
  | '-' :: t => (['-'], t)
  | t => ([], t)

/-- The digits before the point. Only a single zero starts with a zero. -/
def readWhole : Text → Option (Text × Text)
  | '0' :: t => some (['0'], t)
  | t =>
    match spanDigits t with
    | ([], _) => none
    | (ds, t) => some (ds, t)

/-- The point and the digits after it, if there are any. -/
def readFraction : Text → Text × Text
  | '.' :: t =>
    match spanDigits t with
    | ([], _) => ([], '.' :: t)
    | (ds, t) => ('.' :: ds, t)
  | t => ([], t)

/-- An optional sign. -/
def readSign : Text → Text × Text
  | '+' :: t => (['+'], t)
  | '-' :: t => (['-'], t)
  | t => ([], t)

/-- The exponent, if there is one. -/
def readExponent : Text → Text × Text
  | [] => ([], [])
  | c :: t =>
    if c = 'e' ∨ c = 'E' then
      match spanDigits (readSign t).2 with
      | ([], _) => ([], c :: t)
      | (ds, rest) => (c :: ((readSign t).1 ++ ds), rest)
    else ([], c :: t)

/-- A number, with the text of the floating point number that a numeral stands for. -/
def readNumber (float : Text → Option Text) (t : Text) : Option (Value × Text) := do
  let (sign, t) := readMinus t
  let (whole, t) ← readWhole t
  let (fraction, t) := readFraction t
  let (exponent, t) := readExponent t
  if fraction = [] ∧ exponent = [] then
    let n ← parseInt (sign ++ whole)
    some (.int n, t)
  else
    let text ← float (sign ++ (whole ++ (fraction ++ exponent)))
    some (.float text, t)

/-! ### Values -/

mutual

/-- A JSON value. -/
def readValue (float : Text → Option Text) : ℕ → Text → Option (Value × Text)
  | 0, _ => none
  | fuel + 1, t =>
    match t with
    | '"' :: t => (readString ('"' :: t)).map fun (s, t) => (.str s, t)
    | '[' :: t =>
      match skipSpace t with
      | ']' :: t => some (.list [], t)
      | t => (readItems float fuel t).map fun (items, t) => (.list items, t)
    | '{' :: t =>
      match skipSpace t with
      | '}' :: t => some (.dict [], t)
      | t => (readPairs float fuel t).map fun (items, t) => (.dict (Dict.update [] items), t)
    | 'n' :: 'u' :: 'l' :: 'l' :: t => some (.none, t)
    | 't' :: 'r' :: 'u' :: 'e' :: t => some (.bool true, t)
    | 'f' :: 'a' :: 'l' :: 's' :: 'e' :: t => some (.bool false, t)
    | t => readNumber float t

/-- The items of a nonempty list, up to its bracket. -/
def readItems (float : Text → Option Text) : ℕ → Text → Option (List Value × Text)
  | 0, _ => none
  | fuel + 1, t => do
    let (item, t) ← readValue float fuel t
    match skipSpace t with
    | ',' :: t =>
      let (items, t) ← readItems float fuel (skipSpace t)
      some (item :: items, t)
    | ']' :: t => some ([item], t)
    | _ => none

/-- The members of a nonempty dictionary, up to its brace. -/
def readPairs (float : Text → Option Text) : ℕ → Text → Option (List (Text × Value) × Text)
  | 0, _ => none
  | fuel + 1, t => do
    let (key, t) ← readString t
    match skipSpace t with
    | ':' :: t =>
      let (item, t) ← readValue float fuel (skipSpace t)
      match skipSpace t with
      | ',' :: t =>
        let (items, t) ← readPairs float fuel (skipSpace t)
        some ((key, item) :: items, t)
      | '}' :: t => some ([(key, item)], t)
      | _ => none
    | _ => none

end

/-- `json.loads`. -/
def Value.loads (float : Text → Option Text) (t : Text) : Option Value := do
  let (value, t) ← readValue float (t.length + 1) (skipSpace t)
  if skipSpace t = [] then some value else none

example : (Value.loads some "\x7b\"a\": [1, -2.50, null], \"b\": \x7b\x7d\x7d".toList).map
    (Value.dumps false) = some (.ok "\x7b\"a\": [1, -2.50, null], \"b\": \x7b\x7d\x7d".toList) := by
  decide +kernel

/-! ### Numbers read back -/

/-- Digits are read up to the first character that is none. -/
theorem spanDigits_append {ds t : Text} (hds : ∀ c ∈ ds, isJsonDigit c = true)
    (ht : ∀ c ∈ t.head?, isJsonDigit c = false) : spanDigits (ds ++ t) = (ds, t) := by
  have hstop : t.takeWhile isJsonDigit = [] ∧ t.dropWhile isJsonDigit = t := by
    cases t with
    | nil => exact ⟨rfl, rfl⟩
    | cons c t => simp [ht c rfl]
  rw [spanDigits, List.takeWhile_append_of_pos hds, List.dropWhile_append_of_pos hds, hstop.1,
    hstop.2, List.append_nil]

/-- The digits of a numeral are digits. -/
theorem Digits.isJsonDigit_of_mem {ds : Digits} {c : Char} (hc : c ∈ ds.text) :
    isJsonDigit c = true := by
  obtain ⟨d, hd, rfl⟩ := exists_digitChar_of_mem hc
  exact (isJsonDigit_digitChar hd).1

/-- The numerals of JSON: no plus sign, a digit before the point and after it, and no zero in
front of other digits. -/
structure Numeral.IsJson (m : Numeral) : Prop where
  /-- No plus sign. -/
  sign_ne : m.sign ≠ .plus
  /-- A digit before the point. -/
  whole_ne : m.whole ≠ []
  /-- A zero stands alone. -/
  zero_alone : m.whole.head? = some 0 → m.whole = [0]
  /-- A digit after the point. -/
  fraction_ne : m.fraction ≠ some []

/-- What may follow a value: nothing, or the punctuation of a list or a dictionary. -/
def EndsValue (t : Text) : Prop := ∀ c ∈ t.head?, c = ',' ∨ c = ']' ∨ c = '}'

/-- The end of a value continues no number. -/
theorem EndsValue.head_notMem {t : Text} (h : EndsValue t) :
    ∀ c ∈ t.head?, isJsonDigit c = false ∧ c ≠ '.' ∧ c ≠ 'e' ∧ c ≠ 'E' := by
  intro c hc
  rcases h c hc with rfl | rfl | rfl <;> decide

/-- The sign is read back. -/
theorem readMinus_text {sign : Sign} (hsign : sign ≠ .plus) {t : Text}
    (ht : ∀ c ∈ t.head?, c ≠ '-') : readMinus (sign.text ++ t) = (sign.text, t) := by
  cases sign with
  | plus => exact absurd rfl hsign
  | minus => rfl
  | none =>
    cases t with
    | nil => rfl
    | cons c t => rw [Sign.text, List.nil_append, readMinus.eq_2 _ (by simpa using ht c rfl)]

/-- A digit that is no zero is not written as one. -/
theorem digitChar_ne_zero : ∀ {d : Fin 10}, d ≠ 0 → d.val.digitChar ≠ '0' := by decide

/-- The digits before the point are read back. -/
theorem readWhole_text {ds : Digits} (hne : ds ≠ []) (hzero : ds.head? = some 0 → ds = [0])
    {t : Text} (ht : ∀ c ∈ t.head?, isJsonDigit c = false) :
    readWhole (ds.text ++ t) = some (ds.text, t) := by
  have hspan : spanDigits (ds.text ++ t) = (ds.text, t) :=
    spanDigits_append (fun c hc => Digits.isJsonDigit_of_mem hc) ht
  obtain ⟨d, ds, rfl⟩ := List.exists_cons_of_ne_nil hne
  by_cases h0 : d = 0
  · subst h0
    rw [hzero rfl]
    rfl
  · have hcons : (Digits.text (d :: ds) ++ t) = d.val.digitChar :: (Digits.text ds ++ t) := rfl
    rw [hcons] at hspan ⊢
    rw [readWhole.eq_2 _ (by simp [digitChar_ne_zero h0]), hspan]
    rfl

/-- The point and the digits after it are read back. -/
theorem readFraction_text {fraction : Option Digits} (hne : fraction ≠ some []) {t : Text}
    (ht : ∀ c ∈ t.head?, isJsonDigit c = false ∧ c ≠ '.') :
    readFraction (fraction.elim [] (fun ds => '.' :: ds.text) ++ t) =
      (fraction.elim [] (fun ds => '.' :: ds.text), t) := by
  cases fraction with
  | none =>
    cases t with
    | nil => rfl
    | cons c t =>
      rw [Option.elim_none, List.nil_append, readFraction.eq_2 _ (by simpa using (ht c rfl).2)]
  | some ds =>
    obtain ⟨d, ds, rfl⟩ := List.exists_cons_of_ne_nil (show ds ≠ [] from fun h => hne (h ▸ rfl))
    have hspan : spanDigits (Digits.text (d :: ds) ++ t) = (Digits.text (d :: ds), t) :=
      spanDigits_append (fun c hc => Digits.isJsonDigit_of_mem hc) fun c hc => (ht c hc).1
    rw [Option.elim_some, List.cons_append, readFraction, hspan]
    rfl

/-- The sign of an exponent is read back. -/
theorem readSign_text (sign : Sign) {t : Text} (ht : ∀ c ∈ t.head?, c ≠ '+' ∧ c ≠ '-') :
    readSign (sign.text ++ t) = (sign.text, t) := by
  cases sign with
  | plus | minus => rfl
  | none =>
    cases t with
    | nil => rfl
    | cons c t =>
      have hc := ht c rfl
      rw [Sign.text, List.nil_append, readSign.eq_3 _ (by simpa using hc.1) (by simpa using hc.2)]

/-- The exponent is read back. -/
theorem readExponent_text {exponent : Option Exponent} {t : Text}
    (ht : ∀ c ∈ t.head?, isJsonDigit c = false ∧ c ≠ 'e' ∧ c ≠ 'E') :
    readExponent (exponent.elim [] Exponent.text ++ t) = (exponent.elim [] Exponent.text, t) := by
  cases exponent with
  | none =>
    cases t with
    | nil => rfl
    | cons c t =>
      have hc := ht c rfl
      rw [Option.elim_none, List.nil_append, readExponent, if_neg (by simp [hc.2])]
  | some e =>
    obtain ⟨capital, sign, digits, hne⟩ := e
    obtain ⟨d, ds, rfl⟩ := List.exists_cons_of_ne_nil hne
    have hspan : spanDigits (Digits.text (d :: ds) ++ t) = (Digits.text (d :: ds), t) :=
      spanDigits_append (fun c hc => Digits.isJsonDigit_of_mem hc) fun c hc => (ht c hc).1
    have hsign : readSign (sign.text ++ (Digits.text (d :: ds) ++ t)) =
        (sign.text, Digits.text (d :: ds) ++ t) := by
      refine readSign_text sign fun c hc => ?_
      obtain rfl : d.val.digitChar = c := by simpa [Digits.text] using hc
      exact (digitChar_ne d.isLt).2
    have hletter : (if capital then 'E' else 'e') = 'e' ∨ (if capital then 'E' else 'e') = 'E' := by
      cases capital <;> simp
    simp only [Option.elim_some, Exponent.text, List.cons_append, List.append_assoc, readExponent,
      if_pos hletter, hsign, hspan]
    rfl

/-- What follows the fraction of a numeral is neither a digit nor a point. -/
theorem head_exponent {exponent : Option Exponent} {t : Text} (ht : EndsValue t) :
    ∀ c ∈ (exponent.elim [] Exponent.text ++ t).head?, isJsonDigit c = false ∧ c ≠ '.' := by
  cases exponent with
  | none => exact fun c hc => ⟨(ht.head_notMem c hc).1, (ht.head_notMem c hc).2.1⟩
  | some e =>
    intro c hc
    obtain rfl : (if e.capital then 'E' else 'e') = c := by simpa [Exponent.text] using hc
    split <;> decide

/-- What follows the digits before the point is no digit. -/
theorem head_rest {m : Numeral} {t : Text} (ht : EndsValue t) :
    ∀ c ∈ (m.rest ++ t).head?, isJsonDigit c = false := by
  intro c hc
  rw [Numeral.rest, List.append_assoc] at hc
  cases hfraction : m.fraction with
  | none =>
    rw [hfraction] at hc
    exact (head_exponent ht c hc).1
  | some ds =>
    obtain rfl : '.' = c := by simpa [hfraction] using hc
    rfl

/-- A numeral is an integer exactly if nothing follows its digits. -/
theorem rest_eq_nil_iff (m : Numeral) : (m.fraction.elim [] (fun ds => '.' :: Digits.text ds) = [] ∧
    m.exponent.elim [] Exponent.text = []) ↔ m.isInteger = true := by
  cases hfraction : m.fraction <;> cases hexponent : m.exponent <;>
    simp [Numeral.isInteger, hfraction, hexponent, Exponent.text]

/-- **A numeral is read back**, as an integer or as a floating point number. -/
theorem readNumber_text {float : Text → Option Text} {m : Numeral} (hm : m.IsJson) {t : Text}
    (ht : EndsValue t) : readNumber float (m.text ++ t) =
      if m.isInteger then (parseInt m.text).map fun n => (.int n, t)
      else (float m.text).map fun text => (.float text, t) := by
  have htext : m.text ++ t = m.sign.text ++ (m.whole.text ++ (m.rest ++ t)) := by
    simp only [Numeral.text, List.append_assoc]
  have hminus : readMinus (m.sign.text ++ (m.whole.text ++ (m.rest ++ t))) =
      (m.sign.text, m.whole.text ++ (m.rest ++ t)) := by
    refine readMinus_text hm.sign_ne fun c hc => ?_
    obtain ⟨d, ds, hwhole⟩ := List.exists_cons_of_ne_nil hm.whole_ne
    obtain rfl : d.val.digitChar = c := by simpa [hwhole, Digits.text] using hc
    exact (digitChar_ne d.isLt).2.2
  have hwhole := readWhole_text hm.whole_ne hm.zero_alone (head_rest (m := m) ht)
  have hfraction : readFraction (m.rest ++ t) =
      (m.fraction.elim [] (fun ds => '.' :: ds.text), m.exponent.elim [] Exponent.text ++ t) := by
    rw [Numeral.rest, List.append_assoc]
    exact readFraction_text hm.fraction_ne (head_exponent ht)
  have hexponent : readExponent (m.exponent.elim [] Exponent.text ++ t) =
      (m.exponent.elim [] Exponent.text, t) :=
    readExponent_text fun c hc => ⟨(ht.head_notMem c hc).1, (ht.head_notMem c hc).2.2⟩
  rw [htext, readNumber, hminus]
  simp only [hwhole, hfraction, hexponent, Option.bind_eq_bind, Option.bind_some, rest_eq_nil_iff]
  cases hinteger : m.isInteger with
  | true =>
    have hrest : m.rest = [] := by
      rw [Numeral.rest, ((rest_eq_nil_iff m).mpr hinteger).1, ((rest_eq_nil_iff m).mpr hinteger).2]
      rfl
    simp [Numeral.text, hrest, Option.map_eq_bind]
  | false =>
    simp [Numeral.text, Numeral.rest, Option.map_eq_bind]

/-- Digit characters are the text of digits. -/
theorem exists_digits_text {t : Text} (h : ∀ c ∈ t, ∃ d < 10, c = d.digitChar) :
    ∃ ds : Digits, ds.text = t := by
  induction t with
  | nil => exact ⟨[], rfl⟩
  | cons c t ih =>
    obtain ⟨ds, rfl⟩ := ih fun c hc => h c (List.mem_cons_of_mem _ hc)
    obtain ⟨d, hd, rfl⟩ := h _ List.mem_cons_self
    exact ⟨⟨d, hd⟩ :: ds, rfl⟩

/-- A positive number is not written with a zero in front. -/
theorem head_toDigits {n : ℕ} (hn : 0 < n) : (Nat.toDigits 10 n).head? ≠ some '0' := by
  induction n using Nat.strong_induction_on with
  | _ n ih =>
    by_cases hlt : n < 10
    · have hdigit : ∀ {n : ℕ}, n < 10 → 0 < n → n.digitChar ≠ '0' := by decide
      simpa [Nat.toDigits_of_lt_base hlt] using hdigit hlt hn
    · rw [Nat.toDigits_of_base_le (by decide) (by omega), List.head?_append_of_ne_nil _
        Nat.toDigits_ne_nil]
      exact ih (n / 10) (by omega) (by omega)

/-- The text of an integer is a numeral of JSON. -/
theorem exists_numeral_intText (n : ℤ) :
    ∃ m : Numeral, m.IsJson ∧ m.isInteger = true ∧ m.text = intText n := by
  obtain ⟨ds, hds⟩ := exists_digits_text fun c hc =>
    exists_digitChar_of_mem (n := n.natAbs) (c := c) hc
  have hne : ds ≠ [] := by
    rintro rfl
    exact Nat.toDigits_ne_nil hds.symm
  have hzero : ds.head? = some 0 → ds = [0] := by
    intro hhead
    rcases Nat.eq_zero_or_pos n.natAbs with h0 | hpos
    · obtain ⟨d, ds, rfl⟩ := List.exists_cons_of_ne_nil hne
      obtain rfl : d = 0 := Option.some.inj hhead
      rw [h0] at hds
      obtain rfl : ds = [] := List.map_eq_nil_iff.mp (List.cons.inj hds).2
      rfl
    · refine absurd ?_ (head_toDigits hpos)
      obtain ⟨d, ds, rfl⟩ := List.exists_cons_of_ne_nil hne
      obtain rfl : d = 0 := Option.some.inj hhead
      rw [← hds]
      rfl
  have hnumeral (sign : Sign) (hsign : sign ≠ .plus) : ∃ m : Numeral, m.IsJson ∧
      m.isInteger = true ∧ m.text = sign.text ++ Nat.toDigits 10 n.natAbs :=
    ⟨⟨sign, ds, none, none, by simpa using hne⟩, ⟨hsign, hne, hzero, by simp⟩, rfl,
      by simp [Numeral.text, Numeral.rest, hds]⟩
  unfold intText
  split
  · exact hnumeral .minus (by decide)
  · exact hnumeral .none (by decide)

end BatchIngestion.Python
