import BatchIngestion.Python.Text
import Mathlib.Data.Rat.Defs
import Mathlib.Algebra.Field.Rat
import Mathlib.Data.Rat.Cast.Defs

/-!
# Decimal numerals

A finite decimal numeral has a sign, digits with an optional point, and an optional exponent.
`int(s)` reads the numerals that have neither a point nor an exponent, and gives their value.
-/

namespace BatchIngestion.Python

/-- The sign of a numeral. -/
inductive Sign
  /-- No sign. -/
  | none
  /-- A plus sign. -/
  | plus
  /-- A minus sign. -/
  | minus
  deriving DecidableEq

namespace Sign

/-- The text of a sign. -/
def text : Sign → Text
  | none => []
  | plus => ['+']
  | minus => ['-']

/-- A number with a sign. -/
def apply (s : Sign) (n : ℤ) : ℤ :=
  match s with
  | none | plus => n
  | minus => -n

end Sign

/-- Decimal digits, the most significant one first. -/
abbrev Digits := List (Fin 10)

namespace Digits

/-- The text of digits. -/
def text (ds : Digits) : Text := ds.map fun d : Fin 10 => d.val.digitChar

/-- The number that digits denote. -/
def value (ds : Digits) : ℕ := Nat.ofDigitChars 10 ds.text 0

end Digits

/-- The exponent of a numeral. -/
structure Exponent where
  /-- `e` or `E`. -/
  capital : Bool
  /-- The sign. -/
  sign : Sign
  /-- The digits. -/
  digits : Digits
  /-- There is a digit. -/
  digits_ne : digits ≠ []

namespace Exponent

/-- The text of an exponent. -/
def text (e : Exponent) : Text :=
  (if e.capital then 'E' else 'e') :: (e.sign.text ++ Digits.text e.digits)

/-- The power of ten. -/
def value (e : Exponent) : ℤ := e.sign.apply (Digits.value e.digits)

end Exponent

/-- A finite decimal numeral. -/
structure Numeral where
  /-- The sign. -/
  sign : Sign
  /-- The digits before the point. -/
  whole : Digits
  /-- The digits after the point, if there is one. -/
  fraction : Option Digits
  /-- The exponent. -/
  exponent : Option Exponent
  /-- There is a digit before or after the point. -/
  has_digit : whole ++ fraction.getD [] ≠ []

namespace Numeral

/-- What follows the digits before the point. -/
def rest (m : Numeral) : Text :=
  m.fraction.elim [] (fun ds => '.' :: Digits.text ds) ++ m.exponent.elim [] Exponent.text

/-- The text of a numeral. -/
def text (m : Numeral) : Text := m.sign.text ++ (m.whole.text ++ m.rest)

/-- The number that a numeral denotes. -/
def value (m : Numeral) : ℚ :=
  m.sign.apply (Digits.value (m.whole ++ m.fraction.getD [])) *
    10 ^ (m.exponent.elim 0 Exponent.value - (m.fraction.getD []).length : ℤ)

/-- A numeral without a point and an exponent. -/
def isInteger (m : Numeral) : Bool := m.fraction.isNone && m.exponent.isNone

/-- The number before the point. -/
def int (m : Numeral) : ℤ := m.sign.apply m.whole.value

/-- A numeral without a point and an exponent denotes the number of its digits. -/
theorem value_of_isInteger {m : Numeral} (h : m.isInteger = true) : m.value = m.int := by
  obtain ⟨hfraction, hexponent⟩ : m.fraction = none ∧ m.exponent = none := by
    simpa [isInteger] using h
  simp [value, hfraction, hexponent, int]

end Numeral

/-! ### Characters -/

/-- Digits are written as digit characters. -/
theorem Digits.exists_digitChar_of_mem {ds : Digits} {c : Char} (hc : c ∈ ds.text) :
    ∃ d < 10, c = d.digitChar := by
  obtain ⟨d, -, rfl⟩ := List.mem_map.mp hc
  exact ⟨d, d.isLt, rfl⟩

/-- A sign is no white space. -/
theorem Sign.isSpace_of_mem {s : Sign} {c : Char} (hc : c ∈ s.text) : isSpace c = false := by
  cases s <;> simp only [text, List.mem_cons, List.not_mem_nil, or_false] at hc <;> subst hc <;> rfl

/-- A digit is no white space. -/
theorem Digits.isSpace_of_mem {ds : Digits} {c : Char} (hc : c ∈ ds.text) : isSpace c = false := by
  obtain ⟨d, hd, rfl⟩ := exists_digitChar_of_mem hc
  exact isSpace_digitChar hd

/-- An exponent has no white space. -/
theorem Exponent.isSpace_of_mem {e : Exponent} {c : Char} (hc : c ∈ e.text) :
    isSpace c = false := by
  rcases List.mem_cons.mp hc with rfl | hc
  · split <;> rfl
  · rcases List.mem_append.mp hc with hc | hc
    · exact Sign.isSpace_of_mem hc
    · exact Digits.isSpace_of_mem hc

namespace Numeral

/-- A numeral has no white space. -/
theorem isSpace_of_mem {m : Numeral} {c : Char} (hc : c ∈ m.text) : isSpace c = false := by
  rcases List.mem_append.mp hc with hc | hc
  · exact Sign.isSpace_of_mem hc
  rcases List.mem_append.mp hc with hc | hc
  · exact Digits.isSpace_of_mem hc
  rcases List.mem_append.mp hc with hc | hc
  · cases hfraction : m.fraction with
    | none => simp [hfraction] at hc
    | some ds =>
      rw [hfraction] at hc
      rcases List.mem_cons.mp hc with rfl | hc
      · rfl
      · exact Digits.isSpace_of_mem hc
  · cases hexponent : m.exponent with
    | none => simp [hexponent] at hc
    | some e => exact Exponent.isSpace_of_mem (by simpa [hexponent] using hc)

/-- A numeral is left alone by `strip`. -/
theorem strip_text (m : Numeral) : strip m.text = m.text :=
  strip_eq_self (fun _ hc => isSpace_of_mem (List.mem_of_mem_head? hc))
    fun _ hc => isSpace_of_mem (List.mem_of_mem_getLast? hc)

/-- A numeral is not empty. -/
theorem text_ne_nil (m : Numeral) : m.text ≠ [] := by
  intro h
  obtain ⟨-, hwhole, hrest⟩ : m.sign.text = [] ∧ m.whole.text = [] ∧ m.rest = [] := by
    simpa [text] using h
  have hdigit := m.has_digit
  have hnil : m.whole = [] := List.map_eq_nil_iff.mp hwhole
  cases hfraction : m.fraction with
  | none => simp [hnil, hfraction] at hdigit
  | some ds => simp [rest, hfraction] at hrest

/-- A numeral with a point or an exponent goes on after its digits with another character. -/
theorem rest_cases (m : Numeral) : (m.isInteger = true ∧ m.rest = []) ∨
    m.isInteger = false ∧ ∃ c ∈ ['.', 'e', 'E'], ∃ t, m.rest = c :: t := by
  unfold isInteger rest
  cases m.fraction with
  | some ds => exact .inr ⟨rfl, '.', by decide, _, rfl⟩
  | none =>
    cases m.exponent with
    | none => exact .inl ⟨rfl, rfl⟩
    | some e =>
      refine .inr ⟨rfl, if e.capital then 'E' else 'e', ?_, _, rfl⟩
      split <;> decide

end Numeral

/-! ### Reading an integer -/

/-- Digits are read as their number. -/
theorem Digits.parseDigits_text {ds : Digits} (h : ds ≠ []) :
    parseDigits ds.text = some ds.value := by
  obtain ⟨d, ds, rfl⟩ := List.exists_cons_of_ne_nil h
  have hmem : ∀ c ∈ Digits.text ds, ∃ d < 10, c = d.digitChar := fun _ => exists_digitChar_of_mem
  have hcons : Digits.text (d :: ds) = d.val.digitChar :: Digits.text ds := rfl
  rw [value, hcons, parseDigits, decimalDigit_digitChar d.isLt, Option.bind_some,
    digitsAfter_digitChars hmem, Nat.ofDigitChars_cons_digitChar_of_lt_ten d.isLt]
  simp

/-- Digits with another character after them are not read. -/
theorem Digits.parseDigits_append_eq_none (ds : Digits) {c : Char} (hc : decimalDigit c = none)
    (hunderscore : c ≠ '_') (t : Text) : parseDigits (ds.text ++ c :: t) = none := by
  cases ds with
  | nil => simp [text, parseDigits, hc]
  | cons d ds =>
    have hmem : ∀ c ∈ Digits.text ds, ∃ d < 10, c = d.digitChar := fun _ => exists_digitChar_of_mem
    have hcons : Digits.text (d :: ds) = d.val.digitChar :: Digits.text ds := rfl
    rw [hcons, List.cons_append, parseDigits, decimalDigit_digitChar d.isLt, Option.bind_some,
      digitsAfter_eq_none hmem hc hunderscore]

namespace Numeral

/-- Before its sign, a numeral starts with no other one. -/
theorem head_ne_sign (m : Numeral) {c : Char} (hc : c ∈ (m.whole.text ++ m.rest).head?) :
    c ≠ '+' ∧ c ≠ '-' := by
  cases hwhole : m.whole with
  | cons d ds =>
    rw [hwhole] at hc
    obtain rfl := Option.some.inj hc
    exact (digitChar_ne d.isLt).2
  | nil =>
    rw [hwhole] at hc
    rcases m.rest_cases with ⟨-, hrest⟩ | ⟨-, c', hc', t, hrest⟩
    · rw [hrest] at hc
      cases hc
    · rw [hrest] at hc
      obtain rfl := Option.some.inj hc
      revert hc'
      simp only [List.mem_cons, List.not_mem_nil, or_false]
      rintro (rfl | rfl | rfl) <;> decide

/-- The sign of a numeral is read before its digits. -/
theorem parseSigned_text (m : Numeral) :
    parseSigned m.text = (parseDigits (m.whole.text ++ m.rest)).map fun n : ℕ =>
      m.sign.apply n := by
  have hhead : ∀ c ∈ (m.whole.text ++ m.rest).head?, c ≠ '+' ∧ c ≠ '-' := fun _ => m.head_ne_sign
  unfold text
  generalize m.whole.text ++ m.rest = t at hhead ⊢
  cases m.sign with
  | plus => rfl
  | minus =>
    change (parseDigits t).map Int.negOfNat = _
    cases parseDigits t with
    | none => rfl
    | some n => exact congrArg some Int.negOfNat_eq
  | none =>
    refine (parseSigned.eq_3 t (fun ds h => ?_) fun ds h => ?_).trans rfl
    · exact (hhead '+' (by rw [h]; rfl)).1 rfl
    · exact (hhead '-' (by rw [h]; rfl)).2 rfl

/-- The digits of a numeral are all that is read. -/
theorem parseDigits_text (m : Numeral) :
    parseDigits (m.whole.text ++ m.rest) =
      if m.isInteger then some m.whole.value else none := by
  rcases m.rest_cases with ⟨hinteger, hrest⟩ | ⟨hinteger, c, hc, t, hrest⟩
  · have hdigit := m.has_digit
    obtain ⟨hfraction, -⟩ : m.fraction = none ∧ m.exponent = none := by
      simpa [isInteger] using hinteger
    rw [hrest, List.append_nil, hinteger, if_pos rfl]
    exact Digits.parseDigits_text (by simpa [hfraction] using hdigit)
  · have hstop : decimalDigit c = none ∧ c ≠ '_' := by
      revert hc
      simp only [List.mem_cons, List.not_mem_nil, or_false]
      rintro (rfl | rfl | rfl) <;> decide
    rw [hrest, hinteger, Digits.parseDigits_append_eq_none _ hstop.1 hstop.2]
    rfl

/-- The sign is no digit, and all digits are digits. -/
theorem length_filter_text {m : Numeral} (h : m.isInteger = true) :
    (m.text.filter fun c => (decimalDigit c).isSome).length = m.whole.length := by
  have hrest : m.rest = [] := by
    rcases m.rest_cases with ⟨-, hrest⟩ | ⟨hnot, -⟩
    · exact hrest
    · rw [h] at hnot
      cases hnot
  have hsign : m.sign.text.filter (fun c => (decimalDigit c).isSome) = [] := by
    cases m.sign <;> decide
  have hwhole : m.whole.text.filter (fun c => (decimalDigit c).isSome) = m.whole.text := by
    refine List.filter_eq_self.mpr fun c hc => ?_
    obtain ⟨d, hd, rfl⟩ := Digits.exists_digitChar_of_mem hc
    rw [decimalDigit_digitChar hd, Option.isSome_some]
  rw [text, hrest, List.append_nil, List.filter_append, hsign, hwhole, List.nil_append,
    Digits.text, List.length_map]

/-- **Which numerals `int(s)` reads**: those without a point and an exponent, unless they have too
many digits. -/
theorem isSome_parseInt_text_iff (m : Numeral) :
    (parseInt m.text).isSome ↔ m.isInteger = true ∧ m.whole.length ≤ maxStrDigits := by
  rw [parseInt, strip_text, parseSigned_text, parseDigits_text]
  cases hinteger : m.isInteger with
  | true => rw [length_filter_text hinteger]; split <;> simp_all
  | false => split <;> simp

/-- **A numeral that is read as an integer denotes it.** -/
theorem value_of_parseInt {m : Numeral} {n : ℤ} (h : parseInt m.text = some n) : m.value = n := by
  unfold parseInt at h
  split at h
  · rw [strip_text, parseSigned_text, parseDigits_text] at h
    split at h
    · rename_i hinteger
      obtain rfl := Option.some.inj h
      exact value_of_isInteger hinteger
    · cases h
  · cases h

end Numeral

end BatchIngestion.Python
