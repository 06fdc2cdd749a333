import BatchIngestion.Python.Json

/-!
# JSON texts read back

`jsonLoads` undoes `jsonDumps` up to the order of the keys, for every dictionary
of dictionaries of integers and for keys with any characters.
-/

namespace BatchIngestion.Python

/-! ### Strings -/

/-- The sixteen hexadecimal digits have their values. -/
theorem hexDigit_digitChar {d : ℕ} (hd : d < 16) : hexDigit d.digitChar = some d := by
  revert d
  decide

/-- A code unit is read back. -/
theorem readHexQuad_hexQuad {n : ℕ} (hn : n < 0x10000) (t : Text) :
    readHexQuad (hexQuad n ++ t) = some (n, t) := by
  have hdigit (m : ℕ) : hexDigit (m % 16).digitChar = some (m % 16) :=
    hexDigit_digitChar (Nat.mod_lt _ (by decide))
  simp only [hexQuad, List.cons_append, List.nil_append, readHexQuad, hdigit, Option.bind_eq_bind,
    Option.bind_some]
  congr 2
  omega

/-- A character has no surrogate as its code point. -/
theorem toNat_not_surrogate (c : Char) : ¬ (0xd800 ≤ c.toNat ∧ c.toNat < 0xe000) := by
  have h : c.toNat.isValidChar := c.valid
  rcases h with h | h <;> omega

/-- A character has a code point of at most 21 bits. -/
theorem toNat_lt (c : Char) : c.toNat < 0x110000 := by
  have h : c.toNat.isValidChar := c.valid
  rcases h with h | h <;> omega

/-- An escaped code unit outside the surrogates is read back. -/
theorem readUnicodeEscape_hexQuad {c : Char} (hc : c.toNat < 0x10000) (t : Text) :
    readUnicodeEscape (hexQuad c.toNat ++ t) = some (c, t) := by
  have hsurrogate : ¬ (0xd800 ≤ c.toNat ∧ c.toNat < 0xdc00) := by
    have := toNat_not_surrogate c
    omega
  simp only [readUnicodeEscape, readHexQuad_hexQuad hc, Option.bind_eq_bind, Option.bind_some,
    if_neg hsurrogate, Char.ofNat_toNat]

/-- An escaped surrogate pair is read back. -/
theorem readUnicodeEscape_pair {c : Char} {high low : ℕ} (hhigh : 0xd800 ≤ high ∧ high < 0xdc00)
    (hlow : 0xdc00 ≤ low ∧ low < 0xe000)
    (hcode : 0x10000 + (high - 0xd800) * 0x400 + (low - 0xdc00) = c.toNat) (t : Text) :
    readUnicodeEscape (hexQuad high ++ (unicodeEscape low ++ t)) = some (c, t) := by
  simp only [readUnicodeEscape, unicodeEscape, List.cons_append,
    readHexQuad_hexQuad (show high < 0x10000 by omega),
    readHexQuad_hexQuad (show low < 0x10000 by omega), Option.bind_eq_bind, Option.bind_some,
    if_pos hhigh, if_pos hlow, hcode, Char.ofNat_toNat]

/-- Every escape is read back, and none starts with a quote. -/
theorem readChar_escapeChar (c : Char) (t : Text) :
    readChar (escapeChar c ++ t) = some (c, t) ∧ (escapeChar c).head? ≠ some '"' ∧
      escapeChar c ≠ [] := by
  unfold escapeChar
  cases hget : Dict.get? escapeDct c with
  | some e =>
    have hmem := Dict.mem_of_get? hget
    simp only [escapeDct, List.mem_cons, Prod.mk.injEq, List.not_mem_nil, or_false] at hmem
    rcases hmem with ⟨rfl, rfl⟩ | ⟨rfl, rfl⟩ | ⟨rfl, rfl⟩ | ⟨rfl, rfl⟩ | ⟨rfl, rfl⟩ | ⟨rfl, rfl⟩ |
      ⟨rfl, rfl⟩ <;> exact ⟨rfl, by decide, by decide⟩
  | none =>
    have hslash : c ≠ '\\' := by
      rintro rfl
      exact absurd hget (by decide)
    have hquote : c ≠ '"' := by
      rintro rfl
      exact absurd hget (by decide)
    by_cases hprint : 0x20 ≤ c.toNat ∧ c.toNat ≤ 0x7e
    · simp only [if_pos hprint]
      refine ⟨?_, by simpa using hquote, by simp⟩
      simp [readChar, hslash]
    · by_cases hunit : c.toNat < 0x10000
      · simp only [if_neg hprint, if_pos hunit]
        exact ⟨readUnicodeEscape_hexQuad hunit t, by simp [unicodeEscape], by simp [unicodeEscape]⟩
      · simp only [if_neg hprint, if_neg hunit]
        refine ⟨?_, by simp [unicodeEscape], by simp [unicodeEscape]⟩
        rw [List.append_assoc]
        have hlt := toNat_lt c
        exact readUnicodeEscape_pair (by omega) (by omega) (by omega) t

/-- The characters of a string are read back. -/
theorem readChars_flatMap (s t : Text) {fuel : ℕ} (hfuel : s.length < fuel) :
    readChars fuel (s.flatMap escapeChar ++ '"' :: t) = some (s, t) := by
  induction s generalizing fuel with
  | nil =>
    obtain ⟨fuel, rfl⟩ : ∃ f, fuel = f + 1 := ⟨fuel - 1, by simp at hfuel; omega⟩
    rfl
  | cons c s ih =>
    obtain ⟨fuel, rfl⟩ : ∃ f, fuel = f + 1 := ⟨fuel - 1, by simp at hfuel; omega⟩
    have hrest := @ih fuel (by simpa using hfuel)
    obtain ⟨hread, hhead, hne⟩ := readChar_escapeChar c (s.flatMap escapeChar ++ '"' :: t)
    rw [List.flatMap_cons, List.append_assoc]
    cases hesc : escapeChar c with
    | nil => exact absurd hesc hne
    | cons h rest =>
      have hquote : h ≠ '"' := by simpa [hesc] using hhead
      rw [hesc] at hread
      rw [List.cons_append] at hread ⊢
      rw [readChars.eq_3 _ _ (by simp [hquote])]
      simp only [hread, Option.bind_eq_bind, Option.bind_some, hrest]

/-- A string is no longer than its escaped characters. -/
theorem length_le_flatMap_escapeChar (s : Text) : s.length ≤ (s.flatMap escapeChar).length := by
  induction s with
  | nil => simp
  | cons c s ih =>
    have hpos := List.length_pos_iff.mpr (readChar_escapeChar c []).2.2
    simp only [List.flatMap_cons, List.length_append, List.length_cons]
    omega

/-- A JSON string is read back. -/
theorem readString_jsonString (s t : Text) : readString (jsonString s ++ t) = some (s, t) := by
  have hlength := length_le_flatMap_escapeChar s
  simp only [jsonString, List.cons_append, List.append_assoc, List.nil_append, readString]
  refine readChars_flatMap s t ?_
  simp only [List.length_append, List.length_cons]
  omega

/-! ### Integers -/

/-- The ASCII digits are JSON digits. -/
theorem isJsonDigit_digitChar {d : ℕ} (hd : d < 10) :
    isJsonDigit d.digitChar = true ∧ d.digitChar ≠ '-' := by
  revert d
  decide

/-- A natural number is read back up to the character that ends it. -/
theorem readJsonNat_toDigits (n : ℕ) {c : Char} (hc : isJsonDigit c = false) (t : Text) :
    readJsonNat (Nat.toDigits 10 n ++ c :: t) = some (n, c :: t) := by
  have hall : ∀ d ∈ Nat.toDigits 10 n, isJsonDigit d = true := by
    intro d hd
    obtain ⟨m, hm, rfl⟩ := exists_digitChar_of_mem hd
    exact (isJsonDigit_digitChar hm).1
  have htake : (Nat.toDigits 10 n ++ c :: t).takeWhile isJsonDigit = Nat.toDigits 10 n := by
    rw [List.takeWhile_append_of_pos hall]
    simp [hc]
  have hdrop : (Nat.toDigits 10 n ++ c :: t).dropWhile isJsonDigit = c :: t := by
    rw [List.dropWhile_append_of_pos hall]
    simp [hc]
  have hvalue := Nat.ofDigitChars_ten_toDigits (n := n)
  rw [readJsonNat, htake, hdrop]
  cases hds : Nat.toDigits 10 n with
  | nil => exact absurd hds Nat.toDigits_ne_nil
  | cons d ds => simp only [← hds, hvalue]

/-- An integer is read back up to the character that ends it. -/
theorem readJsonInt_intText (n : ℤ) {c : Char} (hc : isJsonDigit c = false) (t : Text) :
    readJsonInt (intText n ++ c :: t) = some (n, c :: t) := by
  unfold intText
  split
  · rw [List.cons_append, readJsonInt, readJsonNat_toDigits _ hc, Option.map_some]
    simp only [Int.negOfNat_eq, Int.ofNat_eq_natCast, Option.some.injEq, Prod.mk.injEq, and_true]
    omega
  · have hunsigned : readJsonInt (Nat.toDigits 10 n.natAbs ++ c :: t) =
        (readJsonNat (Nat.toDigits 10 n.natAbs ++ c :: t)).map fun r => (Int.ofNat r.1, r.2) := by
      cases hds : Nat.toDigits 10 n.natAbs with
      | nil => exact absurd hds Nat.toDigits_ne_nil
      | cons d ds =>
        obtain ⟨m, hm, rfl⟩ := exists_digitChar_of_mem (hds ▸ List.mem_cons_self (a := d) (l := ds))
        rw [List.cons_append, readJsonInt.eq_2 _ (by simp [isJsonDigit_digitChar hm])]
    rw [hunsigned, readJsonNat_toDigits _ hc, Option.map_some]
    simp only [Int.ofNat_eq_natCast, Option.some.injEq, Prod.mk.injEq, and_true]
    omega

/-! ### Objects -/

section Object

variable {α : Type} {value : α → Text} {read : Text → Option (α × Text)} {norm : α → α}

/-- The members of a nonempty object are read back when its values are. -/
theorem readMembers_jsonMembers
    (hspace : ∀ v t, skipSpace (value v ++ t) = value v ++ t)
    (hvalue : ∀ v c t, c = ',' ∨ c = '}' → read (value v ++ c :: t) = some (norm v, c :: t))
    {m : Dict Text α} (hm : m ≠ []) (t : Text) {fuel : ℕ} (hfuel : m.length ≤ fuel) :
    readMembers read fuel (jsonMembers value m ++ t) =
      some (m.map fun item => (item.1, norm item.2), t) := by
  have hcolon (t : Text) : skipSpace (':' :: t) = ':' :: t := rfl
  have hclose (t : Text) : skipSpace ('}' :: t) = '}' :: t := rfl
  have hcomma (t : Text) : skipSpace (',' :: t) = ',' :: t := rfl
  have hquote (s t : Text) : skipSpace (jsonString s ++ t) = jsonString s ++ t := rfl
  have hblank (t : Text) : skipSpace (' ' :: t) = skipSpace t := rfl
  induction m generalizing fuel with
  | nil => exact absurd rfl hm
  | cons item m ih =>
    obtain ⟨k, v⟩ := item
    obtain ⟨fuel, rfl⟩ : ∃ f, fuel = f + 1 := ⟨fuel - 1, by simp at hfuel; omega⟩
    cases m with
    | nil =>
      simp only [jsonMembers, List.append_assoc, List.cons_append, List.nil_append, readMembers,
        hquote, readString_jsonString, Option.bind_eq_bind, Option.bind_some, hcolon, hblank,
        hspace, hvalue v '}' t (.inr rfl), hclose, List.map_cons, List.map_nil]
    | cons item' m =>
      have hrest : readMembers read fuel (jsonMembers value (item' :: m) ++ t) =
          some ((item' :: m).map fun item => (item.1, norm item.2), t) :=
        ih (by simp) (by simpa using hfuel)
      have hblank' : readMembers read fuel (' ' :: (jsonMembers value (item' :: m) ++ t)) =
          readMembers read fuel (jsonMembers value (item' :: m) ++ t) := by
        cases fuel with
        | zero => rfl
        | succ fuel => simp only [readMembers, hblank]
      simp only [jsonMembers, List.append_assoc, List.cons_append, readMembers,
        hquote, readString_jsonString, Option.bind_eq_bind, Option.bind_some, hcolon, hblank,
        hspace, hvalue v ',' _ (.inl rfl), hcomma, hblank', hrest, List.map_cons]

/-- The members of an object are at least as long as the object has members. -/
theorem length_le_jsonMembers (m : Dict Text α) : m.length ≤ (jsonMembers value m).length := by
  induction m with
  | nil => simp
  | cons item m ih =>
    obtain ⟨k, v⟩ := item
    cases m with
    | nil =>
      simp only [jsonMembers, List.length_append, List.length_cons]
      omega
    | cons item' m =>
      simp only [jsonMembers, List.length_append, List.length_cons] at ih ⊢
      omega

/-- An object is read back with sorted keys when its values are read back. -/
theorem readObject_jsonObject
    (hspace : ∀ v t, skipSpace (value v ++ t) = value v ++ t)
    (hvalue : ∀ v c t, c = ',' ∨ c = '}' → read (value v ++ c :: t) = some (norm v, c :: t))
    (d : Dict Text α) (t : Text) :
    readObject read (jsonObject value d ++ t) =
      some ((Dict.sortKeys d).map fun item => (item.1, norm item.2), t) := by
  unfold jsonObject
  generalize Dict.sortKeys d = m
  rw [List.cons_append, readObject]
  cases m with
  | nil => rfl
  | cons item m =>
    have hlength : (item :: m).length ≤ (jsonMembers value (item :: m)).length :=
      length_le_jsonMembers _
    have hfuel : (item :: m).length ≤ (jsonMembers value (item :: m) ++ t).length + 1 := by
      rw [List.length_append]
      omega
    have hread := readMembers_jsonMembers hspace hvalue (by simp) t hfuel
    obtain ⟨u, hu⟩ : ∃ u, jsonMembers value (item :: m) ++ t = '"' :: u := by
      obtain ⟨k, v⟩ := item
      cases m <;> exact ⟨_, rfl⟩
    rw [hu] at hread ⊢
    exact hread

end Object

/-- An integer's text does not start with white space. -/
theorem skipSpace_intText (n : ℤ) (t : Text) : skipSpace (intText n ++ t) = intText n ++ t := by
  have hdigit : ∀ {d : ℕ}, d < 10 → isJsonSpace d.digitChar = false := by decide
  unfold intText
  split
  · rfl
  · cases hds : Nat.toDigits 10 n.natAbs with
    | nil => exact absurd hds Nat.toDigits_ne_nil
    | cons d ds =>
      obtain ⟨m, hm, rfl⟩ := exists_digitChar_of_mem (hds ▸ List.mem_cons_self (a := d) (l := ds))
      rw [List.cons_append, skipSpace, List.dropWhile_cons_of_neg (by simp [hdigit hm])]

/-- **Offset maps survive their JSON text**: reading back sorts the keys and
changes nothing else. -/
theorem jsonLoads_jsonDumps (d : Dict Text (Dict Text ℤ)) :
    jsonLoads (jsonDumps d) =
      some ((Dict.sortKeys d).map fun item => (item.1, Dict.sortKeys item.2)) := by
  have hint (n : ℤ) (c : Char) (t : Text) (hc : c = ',' ∨ c = '}') :
      readJsonInt (intText n ++ c :: t) = some (id n, c :: t) := by
    refine readJsonInt_intText n ?_ t
    rcases hc with rfl | rfl <;> rfl
  have hinner (v : Dict Text ℤ) (t : Text) :
      readObject readJsonInt (jsonObject intText v ++ t) = some (Dict.sortKeys v, t) := by
    rw [readObject_jsonObject skipSpace_intText hint]
    simp
  have houter : readObject (readObject readJsonInt) (jsonObject (jsonObject intText) d ++ []) =
      some ((Dict.sortKeys d).map fun item => (item.1, Dict.sortKeys item.2), []) :=
    readObject_jsonObject (fun _ _ => rfl) (fun v c t _ => hinner v (c :: t)) d []
  rw [List.append_nil] at houter
  have hstart : skipSpace (jsonDumps d) = jsonDumps d := rfl
  rw [jsonLoads, hstart, jsonDumps, houter]
  rfl

end BatchIngestion.Python
