import BatchIngestion.Python.Text
import Mathlib.Algebra.Order.Ring.Nat

/-!
# The limit on integer texts

Python converts integer texts of a limited number of digits in both directions. What
`int` reads from a text never has more digits than the text, so `str` can print it
again.
-/

namespace BatchIngestion.Python

/-- The decimal digits of a text. -/
def digitCount (s : Text) : ℕ := (s.filter fun c => (decimalDigit c).isSome).length

/-- The value of a digit is below ten. -/
theorem decimalDigit_lt {c : Char} {d : ℕ} (h : decimalDigit c = some d) : d < 10 := by
  obtain ⟨z, -, hz⟩ := List.exists_of_findSome?_eq_some h
  split at hz
  · obtain rfl := Option.some.inj hz
    omega
  · simp at hz

/-- A digit counts once. -/
theorem digitCount_cons_digit {c : Char} {d : ℕ} (h : decimalDigit c = some d) (s : Text) :
    digitCount (c :: s) = digitCount s + 1 := by
  simp [digitCount, h]

/-- No text has fewer digits than its end. -/
theorem digitCount_le_cons (c : Char) (s : Text) : digitCount s ≤ digitCount (c :: s) :=
  ((List.sublist_cons_self c s).filter _).length_le

/-- Every further digit multiplies the bound of the value by ten. -/
theorem digitsAfter_lt {value n : ℕ} {s : Text} (h : digitsAfter value s = some n) :
    n < (value + 1) * 10 ^ digitCount s := by
  have hnext {value d n : ℕ} {rest : Text} (hd : d < 10)
      (ih : n < (10 * value + d + 1) * 10 ^ digitCount rest) :
      n < (value + 1) * 10 ^ (digitCount rest + 1) :=
    calc n < (10 * value + d + 1) * 10 ^ digitCount rest := ih
      _ ≤ ((value + 1) * 10) * 10 ^ digitCount rest := Nat.mul_le_mul_right _ (by omega)
      _ = (value + 1) * 10 ^ (digitCount rest + 1) := by ring
  induction value, s using digitsAfter.induct generalizing n with
  | case1 value =>
    obtain rfl : value = n := by simpa [digitsAfter] using h
    simp [digitCount]
  | case2 value c rest ih =>
    rw [digitsAfter] at h
    obtain ⟨d, hd, h⟩ := Option.bind_eq_some_iff.mp h
    have hcount : digitCount ('_' :: c :: rest) = digitCount rest + 1 := by
      have hunderscore : digitCount ('_' :: c :: rest) = digitCount (c :: rest) := by
        simp [digitCount, show decimalDigit '_' = none by decide]
      rw [hunderscore, digitCount_cons_digit hd]
    rw [hcount]
    exact hnext (decimalDigit_lt hd) (ih d h)
  | case3 value c rest hne ih =>
    rw [digitsAfter.eq_3 _ _ _ hne] at h
    obtain ⟨d, hd, h⟩ := Option.bind_eq_some_iff.mp h
    rw [digitCount_cons_digit hd]
    exact hnext (decimalDigit_lt hd) (ih d h)

/-- An unsigned literal has no more digits than its text. -/
theorem parseDigits_lt {n : ℕ} {s : Text} (h : parseDigits s = some n) :
    n < 10 ^ digitCount s := by
  cases s with
  | nil => simp [parseDigits] at h
  | cons c rest =>
    obtain ⟨d, hd, h⟩ := Option.bind_eq_some_iff.mp h
    rw [digitCount_cons_digit hd, pow_succ']
    have hlt := decimalDigit_lt hd
    exact (digitsAfter_lt h).trans_le (Nat.mul_le_mul_right _ (by omega))

/-- The sign of a literal is no digit. -/
theorem parseSigned_lt {n : ℤ} {s : Text} (h : parseSigned s = some n) :
    n.natAbs < 10 ^ digitCount s := by
  have hmono (c : Char) (ds : Text) : 10 ^ digitCount ds ≤ 10 ^ digitCount (c :: ds) :=
    Nat.pow_le_pow_right (by decide) (digitCount_le_cons c ds)
  unfold parseSigned at h
  split at h
  · obtain ⟨m, hm, rfl⟩ := Option.map_eq_some_iff.mp h
    exact (parseDigits_lt hm).trans_le (hmono _ _)
  · obtain ⟨m, hm, rfl⟩ := Option.map_eq_some_iff.mp h
    rw [Int.negOfNat_eq, Int.ofNat_eq_natCast, Int.natAbs_neg, Int.natAbs_natCast]
    exact (parseDigits_lt hm).trans_le (hmono _ _)
  · obtain ⟨m, hm, rfl⟩ := Option.map_eq_some_iff.mp h
    exact parseDigits_lt hm

/-- A stripped text has no more digits than the text. -/
theorem digitCount_strip_le (s : Text) : digitCount (strip s) ≤ digitCount s := by
  have hsub : (strip s).Sublist s :=
    (List.rdropWhile_prefix isSpace _).sublist.trans (List.dropWhile_sublist isSpace)
  exact (hsub.filter _).length_le

/-- **What `int` reads, `str` prints.** -/
theorem intStr_of_parseInt {n : ℤ} {s : Text} (h : parseInt s = some n) :
    intStr n = .ok (intText n) := by
  unfold parseInt at h
  split at h
  · rename_i hcount
    have hlt : n.natAbs < 10 ^ maxStrDigits := (parseSigned_lt h).trans_le
      (Nat.pow_le_pow_right (by decide) ((digitCount_strip_le s).trans hcount))
    exact if_pos ((Nat.length_toDigits_le_iff (by decide) (by decide)).mpr hlt)
  · simp at h

end BatchIngestion.Python
