import BatchIngestion.Python.Json

/-!
# JSON texts are ASCII

With `ensure_ascii`, whatever the strings are, a JSON text consists of printable ASCII
characters, so that every channel takes it as it is.
-/

namespace BatchIngestion.Python

/-- A text of printable ASCII characters. -/
def Printable (t : Text) : Prop := ∀ c ∈ t, 0x20 ≤ c.toNat ∧ c.toNat ≤ 0x7e

instance (t : Text) : Decidable (Printable t) :=
  List.decidableBAll (fun c : Char => 0x20 ≤ c.toNat ∧ c.toNat ≤ 0x7e) t

/-- A longer text is printable when its parts are. -/
@[simp] theorem printable_append {s t : Text} : Printable (s ++ t) ↔ Printable s ∧ Printable t := by
  simp only [Printable, List.mem_append]
  exact ⟨fun h => ⟨fun c hc => h c (.inl hc), fun c hc => h c (.inr hc)⟩,
    fun h c hc => hc.elim (h.1 c) (h.2 c)⟩

/-- A character in front of a text. -/
@[simp] theorem printable_cons {c : Char} {t : Text} :
    Printable (c :: t) ↔ (0x20 ≤ c.toNat ∧ c.toNat ≤ 0x7e) ∧ Printable t := by
  simp [Printable]

/-- The empty text. -/
@[simp] theorem printable_nil : Printable [] := by simp [Printable]

/-- Printable texts that are joined by one. -/
theorem printable_intercalate {sep : Text} {texts : List Text} (hsep : Printable sep)
    (h : ∀ t ∈ texts, Printable t) : Printable (sep.intercalate texts) := by
  induction texts with
  | nil => exact printable_nil
  | cons t texts ih =>
    obtain ⟨ht, htexts⟩ := List.forall_mem_cons.mp h
    cases texts with
    | nil => rwa [List.intercalate_singleton]
    | cons next texts =>
      rw [List.intercalate_cons_cons]
      exact printable_append.mpr ⟨printable_append.mpr ⟨ht, hsep⟩, ih htexts⟩

/-- A printable text has no null character. -/
theorem Printable.nul_notMem {t : Text} (h : Printable t) : '\x00' ∉ t := by
  intro hmem
  have hnul : 0x20 ≤ ('\x00' : Char).toNat := (h _ hmem).1
  exact absurd hnul (by decide)

/-- Hexadecimal digits are printable. -/
theorem printable_digitChar :
    ∀ {d : ℕ}, d < 16 → 0x20 ≤ d.digitChar.toNat ∧ d.digitChar.toNat ≤ 0x7e := by
  decide

/-- An escaped code unit is printable. -/
theorem printable_unicodeEscape (n : ℕ) : Printable (unicodeEscape n) := by
  have hdigit (n : ℕ) := printable_digitChar (Nat.mod_lt n (show 16 > 0 by decide))
  simp only [unicodeEscape, hexQuad, printable_cons, hdigit, printable_nil, and_true]
  decide

/-- Every character is written in ASCII. -/
theorem printable_escapeChar (c : Char) : Printable (escapeChar c) := by
  unfold escapeChar
  cases hget : Dict.get? escapeDct c with
  | some e =>
    have hescapes : ∀ item ∈ escapeDct, 0x20 ≤ item.2.toNat ∧ item.2.toNat ≤ 0x7e := by decide
    simp only [printable_cons, printable_nil, and_true]
    exact ⟨by decide, hescapes _ (Dict.mem_of_get? hget)⟩
  | none =>
    dsimp only
    split
    · rename_i hrange
      exact printable_cons.mpr ⟨hrange, printable_nil⟩
    · split
      · exact printable_unicodeEscape _
      · exact printable_append.mpr ⟨printable_unicodeEscape _, printable_unicodeEscape _⟩

/-- A JSON string is printable. -/
theorem printable_jsonString (s : Text) : Printable (jsonString s) := by
  have hchars : Printable (s.flatMap escapeChar) := by
    intro c hc
    obtain ⟨d, -, hd⟩ := List.mem_flatMap.mp hc
    exact printable_escapeChar d c hd
  simp only [jsonString, printable_cons, printable_append, printable_nil, and_true]
  exact ⟨by decide, hchars, by decide⟩

/-- An integer is printable. -/
theorem printable_intText (n : ℤ) : Printable (intText n) := by
  have hdigits (n : ℕ) : Printable (Nat.toDigits 10 n) := by
    intro c hc
    obtain ⟨d, hd, rfl⟩ := exists_digitChar_of_mem hc
    exact printable_digitChar (hd.trans (by decide))
  unfold intText
  split
  · exact printable_cons.mpr ⟨by decide, hdigits _⟩
  · exact hdigits _

/-- An object is printable when its values are. -/
theorem printable_jsonObject {α : Type} {value : α → Text} (hvalue : ∀ v, Printable (value v))
    (d : Dict Text α) : Printable (jsonObject value d) := by
  have hmembers (m : Dict Text α) : Printable (jsonMembers value m) := by
    fun_induction jsonMembers value m with
    | case1 => simp
    | case2 k v => simp [hvalue, printable_jsonString]
    | case3 k v m hm ih => simp [hvalue, printable_jsonString, ih]
  exact printable_cons.mpr ⟨by decide, hmembers _⟩

/-- **An offset map is written in printable ASCII**, whatever its keys are. -/
theorem printable_jsonDumps (d : Dict Text (Dict Text ℤ)) : Printable (jsonDumps d) :=
  printable_jsonObject (printable_jsonObject printable_intText) d

end BatchIngestion.Python
