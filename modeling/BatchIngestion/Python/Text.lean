import Mathlib.Data.List.DropRight
import Mathlib.Data.Int.Basic
import Mathlib.Tactic.Ring

/-!
# Python strings and integer literals

A Python string is the list of its code points. This file models the operations
of the standard library that the checkpoint code relies on: `str.strip`,
`int(str)` and `str(int)`. Reading back the text of an integer gives the integer,
and stripping a stripped string changes nothing.
-/

namespace BatchIngestion.Python

/-- A Python `str`, as the list of its code points. -/
abbrev Text := List Char

/-- A string literal used as a Python string. -/
instance : Coe String Text := ⟨String.toList⟩

/-- The exceptions that the modelled code raises or lets through. -/
inductive PyExc
  /-- `ValueError(message)`. -/
  | valueError (message : Text)
  /-- `TypeError(message)`. -/
  | typeError (message : Text)
  /-- `KeyError(key)`. -/
  | keyError (key : Text)
  /-- `RuntimeError(message)`. -/
  | runtimeError (message : Text)
  /-- `OverflowError(message)`. -/
  | overflowError (message : Text)
  /-- `AttributeError(message)`. -/
  | attributeError (message : Text)
  /-- An exception of a client library or of the system behind it. -/
  | external (message : Text)
  deriving DecidableEq

/-- `str.isspace` of one character: the white space that `str.strip` removes. -/
def isSpace (c : Char) : Bool :=
  let n := c.toNat
  (0x09 ≤ n && n ≤ 0x0d) || (0x1c ≤ n && n ≤ 0x20) || n == 0x85 || n == 0xa0 || n == 0x1680 ||
    (0x2000 ≤ n && n ≤ 0x200a) || n == 0x2028 || n == 0x2029 || n == 0x202f || n == 0x205f ||
    n == 0x3000

/-- `str.strip()`. -/
def strip (s : Text) : Text := (s.dropWhile isSpace).rdropWhile isSpace

/-- The digits zero of the decimal systems of Unicode; the digits one to nine of a
system follow its zero. -/
def decimalZeros : List ℕ :=
  [0x30, 0x660, 0x6f0, 0x7c0, 0x966, 0x9e6, 0xa66, 0xae6, 0xb66, 0xbe6, 0xc66, 0xce6, 0xd66,
    0xde6, 0xe50, 0xed0, 0xf20, 0x1040, 0x1090, 0x17e0, 0x1810, 0x1946, 0x19d0, 0x1a80, 0x1a90,
    0x1b50, 0x1bb0, 0x1c40, 0x1c50, 0xa620, 0xa8d0, 0xa900, 0xa9d0, 0xa9f0, 0xaa50, 0xabf0,
    0xff10, 0x104a0, 0x10d30, 0x11066, 0x110f0, 0x11136, 0x111d0, 0x112f0, 0x11450, 0x114d0,
    0x11650, 0x116c0, 0x11730, 0x118e0, 0x11950, 0x11c50, 0x11d50, 0x11da0, 0x16a60, 0x16ac0,
    0x16b50, 0x1d7ce, 0x1d7d8, 0x1d7e2, 0x1d7ec, 0x1d7f6, 0x1e140, 0x1e2f0, 0x1e950, 0x1fbf0]

/-- The value of a Unicode decimal digit. -/
def decimalDigit (c : Char) : Option ℕ :=
  decimalZeros.findSome? fun z =>
    if z ≤ c.toNat ∧ c.toNat < z + 10 then some (c.toNat - z) else none

/-- The digits that follow a digit: single underscores may separate them. -/
def digitsAfter (value : ℕ) : Text → Option ℕ
  | [] => some value
  | '_' :: c :: rest => (decimalDigit c).bind fun d => digitsAfter (10 * value + d) rest
  | c :: rest => (decimalDigit c).bind fun d => digitsAfter (10 * value + d) rest

/-- An unsigned decimal literal. -/
def parseDigits : Text → Option ℕ
  | [] => none
  | c :: rest => (decimalDigit c).bind fun d => digitsAfter d rest

/-- `sys.get_int_max_str_digits()`: the longest integer text that is converted. -/
def maxStrDigits : ℕ := 4300

/-- A signed decimal literal without surrounding white space. -/
def parseSigned : Text → Option ℤ
  | '+' :: ds => (parseDigits ds).map Int.ofNat
  | '-' :: ds => (parseDigits ds).map Int.negOfNat
  | ds => (parseDigits ds).map Int.ofNat

/-- `int(s)` for a string; `none` is the `ValueError`. -/
def parseInt (s : Text) : Option ℤ :=
  if (s.filter fun c => (decimalDigit c).isSome).length ≤ maxStrDigits then parseSigned (strip s)
  else none

/-- The decimal text of an integer, whatever its length. -/
def intText (n : ℤ) : Text :=
  if n < 0 then '-' :: Nat.toDigits 10 n.natAbs else Nat.toDigits 10 n.natAbs

/-- `str(n)` for an integer, which fails when the text has too many digits. -/
def intStr (n : ℤ) : Except PyExc Text :=
  if (Nat.toDigits 10 n.natAbs).length ≤ maxStrDigits then .ok (intText n)
  else .error (.valueError "Exceeds the limit (4300 digits) for integer string conversion")

/-! ### Stripping -/

/-- A string that neither starts nor ends with white space is left alone. -/
theorem strip_eq_self {s : Text} (hhead : ∀ c ∈ s.head?, isSpace c = false)
    (hlast : ∀ c ∈ s.getLast?, isSpace c = false) : strip s = s := by
  cases s with
  | nil => rfl
  | cons c rest =>
    have hdrop : (c :: rest).dropWhile isSpace = c :: rest :=
      List.dropWhile_cons_of_neg (by simp [hhead c rfl])
    rw [strip, hdrop, List.rdropWhile_eq_self_iff]
    intro hne
    simpa using hlast _ (List.getLast?_eq_getLast_of_ne_nil hne)

/-- A stripped string does not start with white space. -/
theorem strip_head {s : Text} : ∀ c ∈ (strip s).head?, isSpace c = false := by
  intro c hc
  obtain ⟨tail, htail⟩ : strip s <+: s.dropWhile isSpace := List.rdropWhile_prefix isSpace _
  obtain ⟨rest, hrest⟩ : ∃ rest, strip s = c :: rest := by
    cases hs : strip s with
    | nil => simp [hs] at hc
    | cons d rest => exact ⟨rest, by simpa [hs] using hc⟩
  rw [hrest, List.cons_append] at htail
  have h := List.head?_dropWhile_not isSpace s
  simpa [← htail] using h

/-- A stripped string does not end with white space. -/
theorem strip_last {s : Text} : ∀ c ∈ (strip s).getLast?, isSpace c = false := by
  intro c hc
  obtain ⟨hne, rfl⟩ := List.mem_getLast?_eq_getLast hc
  have h := List.rdropWhile_last_not isSpace (s.dropWhile isSpace) hne
  simpa only [strip, Bool.not_eq_true] using h

/-- Stripping twice is stripping once. -/
@[simp] theorem strip_strip (s : Text) : strip (strip s) = strip s :=
  strip_eq_self strip_head strip_last

/-! ### Reading back the text of an integer -/

/-- The ten ASCII digits have their values. -/
theorem decimalDigit_digitChar {d : ℕ} (hd : d < 10) : decimalDigit d.digitChar = some d := by
  revert d
  decide

/-- An ASCII digit is no white space. -/
theorem isSpace_digitChar {d : ℕ} (hd : d < 10) : isSpace d.digitChar = false := by
  revert d
  decide

/-- An ASCII digit is neither an underscore nor a sign. -/
theorem digitChar_ne {d : ℕ} (hd : d < 10) :
    d.digitChar ≠ '_' ∧ d.digitChar ≠ '+' ∧ d.digitChar ≠ '-' := by
  revert d
  decide

/-- Every character of a decimal text is the character of a digit below ten. -/
theorem exists_digitChar_of_mem {n : ℕ} {c : Char} (hc : c ∈ Nat.toDigits 10 n) :
    ∃ d < 10, c = d.digitChar := by
  induction n using Nat.strong_induction_on with
  | _ n ih =>
    by_cases hn : n < 10
    · rw [Nat.toDigits_of_lt_base hn, List.mem_singleton] at hc
      exact ⟨n, hn, hc⟩
    · rw [Nat.toDigits_of_base_le (by decide) (by omega), List.mem_append] at hc
      rcases hc with hc | hc
      · exact ih (n / 10) (by omega) hc
      · exact ⟨n % 10, by omega, List.mem_singleton.mp hc⟩

/-- Reading digit characters accumulates their value in base ten. -/
theorem digitsAfter_digitChars {ds : Text} (hds : ∀ c ∈ ds, ∃ d < 10, c = d.digitChar)
    (value : ℕ) : digitsAfter value ds = some (Nat.ofDigitChars 10 ds value) := by
  induction ds generalizing value with
  | nil => simp [digitsAfter]
  | cons c ds ih =>
    obtain ⟨d, hd, rfl⟩ := hds _ List.mem_cons_self
    rw [digitsAfter.eq_3 _ _ _ (by simp [digitChar_ne hd]), decimalDigit_digitChar hd,
      Option.bind_some, ih (fun c hc => hds c (List.mem_cons_of_mem _ hc)),
      Nat.ofDigitChars_cons_digitChar_of_lt_ten hd]

/-- Digits followed by something else are no integer. -/
theorem digitsAfter_eq_none {ds : Text} (hds : ∀ c ∈ ds, ∃ d < 10, c = d.digitChar) {c : Char}
    (hc : decimalDigit c = none) (hunderscore : c ≠ '_') (value : ℕ) (t : Text) :
    digitsAfter value (ds ++ c :: t) = none := by
  induction ds generalizing value with
  | nil =>
    rw [List.nil_append, digitsAfter.eq_3 _ _ _ (by simp [hunderscore]), hc, Option.bind_none]
  | cons d ds ih =>
    obtain ⟨m, hm, rfl⟩ := hds _ List.mem_cons_self
    rw [List.cons_append, digitsAfter.eq_3 _ _ _ (by simp [digitChar_ne hm]),
      decimalDigit_digitChar hm, Option.bind_some, ih fun c hc => hds c (List.mem_cons_of_mem _ hc)]

/-- The decimal text of a natural number reads back as the number. -/
theorem parseDigits_toDigits (n : ℕ) : parseDigits (Nat.toDigits 10 n) = some n := by
  have hmem : ∀ c ∈ Nat.toDigits 10 n, ∃ d < 10, c = d.digitChar :=
    fun c hc => exists_digitChar_of_mem hc
  have hvalue := Nat.ofDigitChars_ten_toDigits (n := n)
  cases hds : Nat.toDigits 10 n with
  | nil => exact absurd hds Nat.toDigits_ne_nil
  | cons c ds =>
    rw [hds] at hmem hvalue
    obtain ⟨d, hd, rfl⟩ := hmem _ List.mem_cons_self
    rw [Nat.ofDigitChars_cons_digitChar_of_lt_ten hd] at hvalue
    rw [parseDigits, decimalDigit_digitChar hd, Option.bind_some,
      digitsAfter_digitChars (fun c hc => hmem c (List.mem_cons_of_mem _ hc)), ← hvalue]
    simp

/-- The text of an integer neither starts nor ends with white space. -/
theorem strip_intText (n : ℤ) : strip (intText n) = intText n := by
  have hall : ∀ c ∈ intText n, isSpace c = false := by
    intro c hc
    have hdigit : ∀ c ∈ Nat.toDigits 10 n.natAbs, isSpace c = false := by
      intro c hc
      obtain ⟨d, hd, rfl⟩ := exists_digitChar_of_mem hc
      exact isSpace_digitChar hd
    unfold intText at hc
    split at hc
    · rcases List.mem_cons.mp hc with rfl | hc
      · decide
      · exact hdigit c hc
    · exact hdigit c hc
  exact strip_eq_self (fun c hc => hall c (List.mem_of_mem_head? hc))
    (fun c hc => hall c (List.mem_of_mem_getLast? hc))

/-- The sign is read before the digits. -/
theorem parseSigned_intText (n : ℤ) : parseSigned (intText n) = some n := by
  unfold intText
  split
  · rw [parseSigned, parseDigits_toDigits, Option.map_some, Int.negOfNat_eq]
    congr 1
    simp only [Int.ofNat_eq_natCast]
    omega
  · have hunsigned : parseSigned (Nat.toDigits 10 n.natAbs) =
        (parseDigits (Nat.toDigits 10 n.natAbs)).map Int.ofNat := by
      cases hds : Nat.toDigits 10 n.natAbs with
      | nil => rfl
      | cons c ds =>
        obtain ⟨d, hd, rfl⟩ := exists_digitChar_of_mem (hds ▸ List.mem_cons_self (a := c) (l := ds))
        rw [parseSigned.eq_3 _ (by simp [digitChar_ne hd]) (by simp [digitChar_ne hd])]
    rw [hunsigned, parseDigits_toDigits, Option.map_some]
    congr 1
    simp only [Int.ofNat_eq_natCast]
    omega

/-- **Integers survive their text.** Whenever `str(n)` succeeds, `int` reads `n` back. -/
theorem parseInt_of_intStr {n : ℤ} {s : Text} (h : intStr n = .ok s) : parseInt s = some n := by
  unfold intStr at h
  split at h
  · rename_i hlen
    obtain rfl : intText n = s := by simpa using h
    have hcount : ((intText n).filter fun c => (decimalDigit c).isSome).length ≤ maxStrDigits := by
      refine le_trans ?_ hlen
      unfold intText
      split
      · rw [List.filter_cons_of_neg (by decide)]
        exact List.length_filter_le ..
      · exact List.length_filter_le ..
    rw [parseInt, if_pos hcount, strip_intText, parseSigned_intText]
  · simp at h

end BatchIngestion.Python
