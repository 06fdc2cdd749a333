import BatchIngestion.InitOperator
import BatchIngestion.Library.Greatest
import BatchIngestion.Python.Numeral
import Mathlib.Data.List.Lex

/-!
# The maximum of a DynamoDB attribute

`_max_dynamodb` scans a table item by item and compares the parsed values of an attribute. A
number arrives as a text, whose type is guessed: an integer, a timestamp, or the text itself. Two
types do not compare, and texts compare by code point, so the result is the maximum only when all
numbers are integers, or when none is and the orders happen to agree.
-/

namespace BatchIngestion

open Python Library

/-! ### The order of the comparison -/

/-- The order that `>` decides between checkpoints of one type. -/
def CheckpointValue.AtMost : CheckpointValue → CheckpointValue → Prop
  | .int a, .int b => a ≤ b
  | .str a, .str b => a ≤ b
  | .datetime a, .datetime b => a.offset.isSome = b.offset.isSome ∧ a.instant ≤ b.instant
  | _, _ => False

/-- The comparison decides its order. -/
theorem CheckpointValue.decides_gt : Decides CheckpointValue.gt CheckpointValue.AtMost where
  refl v := by
    cases v with
    | int n => exact le_refl n
    | datetime d => exact ⟨rfl, le_refl _⟩
    | str s => exact le_refl s
  trans {a b c} hab hbc := by
    cases a <;> cases b <;> try exact hab.elim
    all_goals cases c <;> try exact hbc.elim
    case int.int.int => exact le_trans hab hbc
    case str.str.str => exact le_trans hab hbc
    case datetime.datetime.datetime => exact ⟨hab.1.trans hbc.1, hab.2.trans hbc.2⟩
  le_of_gt {a b} h := by
    cases a <;> cases b <;> simp only [gt, reduceCtorEq] at h
    case int.int => exact le_of_lt (of_decide_eq_true (Except.ok.inj h))
    case str.str => exact le_of_lt (of_decide_eq_true (Except.ok.inj h))
    case datetime.datetime =>
      split at h
      · rename_i hoffset
        exact ⟨hoffset.symm, le_of_lt (of_decide_eq_true (Except.ok.inj h))⟩
      · cases h
  le_of_not_gt {a b} h := by
    cases a <;> cases b <;> simp only [gt, reduceCtorEq] at h
    case int.int => exact le_of_not_gt (of_decide_eq_false (Except.ok.inj h))
    case str.str => exact le_of_not_gt (of_decide_eq_false (Except.ok.inj h))
    case datetime.datetime =>
      split at h
      · rename_i hoffset
        exact ⟨hoffset, le_of_not_gt (of_decide_eq_false (Except.ok.inj h))⟩
      · cases h

/-- The candidates of a scan, in their sequence. -/
def candidates (items : List AttributeValue) : List CheckpointValue :=
  items.filterMap fun attr => attr.raw.map parseText

/-- The loop of `_max_dynamodb` keeps the greatest candidate. -/
theorem InitOperator.foldlM_maxItem (items : List AttributeValue)
    (maxVal : Option CheckpointValue) :
    items.foldlM maxItem maxVal =
      (candidates items).foldlM (greaterOf CheckpointValue.gt) maxVal := by
  induction items generalizing maxVal with
  | nil => rfl
  | cons attr items ih =>
    rw [List.foldlM_cons]
    cases hraw : attr.raw with
    | none =>
      have hcandidates : candidates (attr :: items) = candidates items := by
        simp [candidates, hraw]
      rw [hcandidates, maxItem, hraw]
      exact ih maxVal
    | some raw =>
      have hcandidates : candidates (attr :: items) = parseText raw :: candidates items := by
        simp [candidates, hraw]
      rw [hcandidates, List.foldlM_cons, maxItem, hraw]
      dsimp only
      cases maxVal with
      | none => exact ih _
      | some m =>
        cases hgt : (parseText raw).gt m with
        | error e => simp only [greaterOf, hgt, error_bind]
        | ok greater => simp only [greaterOf, hgt, ok_bind, pure_eq_ok, ih]

/-! ### Numbers -/

/-- The attribute of an item that has a number, or nothing. -/
def AttributeValue.ofNumeral (m : Option Numeral) : AttributeValue where
  n := m.map Numeral.text

/-- A table whose scan gives pages of items with numbers. -/
def Native.scanning (pages : List (List (Option Numeral))) : Native :=
  { Native.down with
    scan := fun _ => .ok (pages.map fun page => page.map AttributeValue.ofNumeral) }

/-- The numbers on pages. -/
def numbersOn (pages : List (List (Option Numeral))) : List Numeral := pages.flatten.reduceOption

/-- A checkpoint is a number: the integer itself, or the text of the number. -/
def CheckpointValue.Denotes : CheckpointValue → Numeral → Prop
  | .int n, m => m.value = n
  | .str s, m => s = m.text
  | .datetime _, _ => False

/-- A result is numerically the largest of some numbers, and `None` if there is none. -/
def IsMaximum (numbers : List Numeral) : Option CheckpointValue → Prop
  | none => numbers = []
  | some v => ∃ m ∈ numbers, v.Denotes m ∧ ∀ m' ∈ numbers, m'.value ≤ m.value

/-- `_max_dynamodb` returns the maximum of the numbers on pages, however the same items are paged
and ordered. -/
def ReturnsMaximum (checkpointCol : Text) (pages : List (List (Option Numeral))) : Prop :=
  ∃ v, IsMaximum (numbersOn pages) v ∧ ∀ pages' : List (List (Option Numeral)),
    pages'.flatten.Perm pages.flatten →
      InitOperator.maxDynamodb (Native.scanning pages') checkpointCol = .ok v

/-- All numbers are integers without a point, an exponent and too many digits, or all stay texts
and the greatest text is the greatest number. -/
def ComparesNumbers (numbers : List Numeral) : Prop :=
  (∀ m ∈ numbers, m.isInteger = true ∧ m.whole.length ≤ maxStrDigits) ∨
    (∀ m ∈ numbers, ∃ s, parseText m.text = .str s) ∧
      ∃ m ∈ numbers, ∀ m' ∈ numbers, m'.text ≤ m.text ∧ m'.value ≤ m.value

/-- A number that is read as an integer is this integer. -/
theorem value_of_parseText {m : Numeral} {n : ℤ} (h : parseText m.text = .int n) : m.value = n := by
  refine Numeral.value_of_parseInt ?_
  rw [parseText, Numeral.strip_text] at h
  cases hint : parseInt m.text with
  | some k =>
    simp only [hint, CheckpointValue.int.injEq] at h
    rw [h]
  | none =>
    simp only [hint] at h
    split at h <;> cases h

/-- The numbers without a point and an exponent are read as integers. -/
theorem exists_parseText_eq_int_iff (m : Numeral) :
    (∃ n, parseText m.text = .int n) ↔ m.isInteger = true ∧ m.whole.length ≤ maxStrDigits := by
  rw [← m.isSome_parseInt_text_iff, parseText, Numeral.strip_text]
  cases hint : parseInt m.text with
  | some n => exact iff_of_true ⟨n, rfl⟩ rfl
  | none =>
    refine iff_of_false ?_ Bool.false_ne_true
    rintro ⟨n, hn⟩
    simp only at hn
    split at hn <;> cases hn

/-- A number that stays a text is its own text. -/
theorem text_of_parseText {m : Numeral} {s : Text} (h : parseText m.text = .str s) :
    m.text = s := by
  rw [parseText, Numeral.strip_text] at h
  cases hint : parseInt m.text with
  | some k =>
    simp only [hint] at h
    cases h
  | none =>
    simp only [hint] at h
    split at h
    · cases h
    · exact CheckpointValue.str.inj h

/-- The candidates of a scan are the numbers on its pages. -/
theorem candidates_scanning (pages : List (List (Option Numeral))) :
    candidates (pages.map fun page => page.map AttributeValue.ofNumeral).flatten =
      (numbersOn pages).map fun m => parseText m.text := by
  have hraw (m : Option Numeral) :
      (AttributeValue.ofNumeral m).raw = m.map Numeral.text := by
    cases m with
    | none => rfl
    | some m => exact if_neg m.text_ne_nil
  have hnumbers : numbersOn pages = pages.flatten.filterMap id := rfl
  rw [← List.map_flatten, candidates, List.filterMap_map, hnumbers, List.map_filterMap]
  refine List.filterMap_congr fun m _ => ?_
  rw [Function.comp_apply, hraw, Option.map_map]
  rfl

/-- `_max_dynamodb` on pages of numbers is the loop over their parsed texts. -/
theorem maxDynamodb_scanning (checkpointCol : Text) (pages : List (List (Option Numeral))) :
    InitOperator.maxDynamodb (Native.scanning pages) checkpointCol =
      ((numbersOn pages).map fun m => parseText m.text).foldlM
        (greaterOf CheckpointValue.gt) none := by
  rw [InitOperator.maxDynamodb, Native.scanning, ok_bind, InitOperator.foldlM_maxItem,
    candidates_scanning]

/-- Numbers of one type have a greatest one, which is found on all pages with these numbers. -/
theorem exists_greatest {p : CheckpointValue → Prop}
    (hcompare : ∀ a b, p a → p b → ∃ greater, a.gt b = .ok greater)
    (hantisymm : ∀ a b : CheckpointValue, p a → p b → a.AtMost b → b.AtMost a → a = b)
    (checkpointCol : Text) {pages : List (List (Option Numeral))}
    (h : ∀ m ∈ numbersOn pages, p (parseText m.text)) :
    ∃ v, ((numbersOn pages = [] ∧ v = none) ∨ ∃ m ∈ numbersOn pages, v = some (parseText m.text) ∧
        ∀ m' ∈ numbersOn pages, (parseText m'.text).AtMost (parseText m.text)) ∧
      ∀ pages' : List (List (Option Numeral)), pages'.flatten.Perm pages.flatten →
        InitOperator.maxDynamodb (Native.scanning pages') checkpointCol = .ok v := by
  have hnone : ∀ b, (none : Option CheckpointValue) = some b → p b :=
    fun b hb => by cases hb
  have hall : ∀ v ∈ (numbersOn pages).map fun m => parseText m.text, p v :=
    List.forall_mem_map.mpr h
  obtain ⟨v, hv⟩ := exists_foldlM_greaterOf hcompare hall hnone
  have hgreatest := (foldlM_greaterOf_eq_ok_iff CheckpointValue.decides_gt hcompare hantisymm
    hall).mp hv
  refine ⟨v, ?_, fun pages' hperm => ?_⟩
  · refine hgreatest.imp (And.imp_left List.map_eq_nil_iff.mp) fun ⟨w, hw, heq, hle⟩ => ?_
    obtain ⟨m, hm, rfl⟩ := List.mem_map.mp hw
    exact ⟨m, hm, heq, List.forall_mem_map.mp hle⟩
  · have hnumbers : (numbersOn pages').Perm (numbersOn pages) := hperm.filterMap _
    have hcandidates := hnumbers.map fun m => parseText m.text
    rw [maxDynamodb_scanning, foldlM_greaterOf_eq_ok_iff CheckpointValue.decides_gt hcompare
      hantisymm fun v hv => hall v (hcandidates.mem_iff.mp hv)]
    have hnil {l l' : List CheckpointValue} (h : l.Perm l') : l = [] ↔ l' = [] :=
      ⟨fun heq => (heq ▸ h).symm.eq_nil, fun heq => (heq ▸ h).eq_nil⟩
    simpa only [hcandidates.mem_iff, hnil hcandidates] using hgreatest

/-- Integers are compared as integers. -/
theorem returnsMaximum_of_integers (checkpointCol : Text) {pages : List (List (Option Numeral))}
    (h : ∀ m ∈ numbersOn pages, ∃ n, parseText m.text = .int n) :
    ReturnsMaximum checkpointCol pages := by
  have hcompare : ∀ a b : CheckpointValue, (∃ n, a = .int n) → (∃ n, b = .int n) →
      ∃ greater, a.gt b = .ok greater := by
    rintro _ _ ⟨a, rfl⟩ ⟨b, rfl⟩
    exact ⟨_, rfl⟩
  have hantisymm : ∀ a b : CheckpointValue, (∃ n, a = .int n) → (∃ n, b = .int n) →
      a.AtMost b → b.AtMost a → a = b := by
    rintro _ _ ⟨a, rfl⟩ ⟨b, rfl⟩ hab hba
    exact congrArg CheckpointValue.int (le_antisymm hab hba)
  obtain ⟨v, hv, hall⟩ := exists_greatest hcompare hantisymm checkpointCol h
  refine ⟨v, ?_, hall⟩
  rcases hv with ⟨hnil, rfl⟩ | ⟨m, hm, rfl, hgreatest⟩
  · exact hnil
  · obtain ⟨n, hn⟩ := h m hm
    have hvalue := value_of_parseText hn
    rw [hn] at hgreatest ⊢
    refine ⟨m, hm, hvalue, fun m' hm' => ?_⟩
    obtain ⟨n', hn'⟩ := h m' hm'
    have hle := hgreatest m' hm'
    rw [hn'] at hle
    rw [hvalue, value_of_parseText hn']
    exact_mod_cast hle

/-- Texts are compared as texts. -/
theorem returnsMaximum_of_texts (checkpointCol : Text) {pages : List (List (Option Numeral))}
    (h : ∀ m ∈ numbersOn pages, ∃ s, parseText m.text = .str s) {m : Numeral}
    (hm : m ∈ numbersOn pages)
    (hgreatest : ∀ m' ∈ numbersOn pages, m'.text ≤ m.text ∧ m'.value ≤ m.value) :
    ReturnsMaximum checkpointCol pages := by
  have hcompare : ∀ a b : CheckpointValue, (∃ s, a = .str s) → (∃ s, b = .str s) →
      ∃ greater, a.gt b = .ok greater := by
    rintro _ _ ⟨a, rfl⟩ ⟨b, rfl⟩
    exact ⟨_, rfl⟩
  have hantisymm : ∀ a b : CheckpointValue, (∃ s, a = .str s) → (∃ s, b = .str s) →
      a.AtMost b → b.AtMost a → a = b := by
    rintro _ _ ⟨a, rfl⟩ ⟨b, rfl⟩ hab hba
    exact congrArg CheckpointValue.str (le_antisymm hab hba)
  obtain ⟨v, hv, hall⟩ := exists_greatest hcompare hantisymm checkpointCol h
  refine ⟨v, ?_, hall⟩
  rcases hv with ⟨hnil, -⟩ | ⟨w, hw, rfl, hfound⟩
  · rw [hnil] at hm
    cases hm
  · obtain ⟨s, hs⟩ := h w hw
    obtain ⟨t, ht⟩ := h m hm
    have hle := hfound m hm
    rw [hs, ht, ← text_of_parseText hs, ← text_of_parseText ht] at hle
    rw [hs, ← text_of_parseText hs]
    exact ⟨m, hm, le_antisymm (hgreatest w hw).1 hle, fun m' hm' => (hgreatest m' hm').2⟩

/-- **When `_max_dynamodb` returns the maximum**: exactly when it compares the numbers as numbers.
Either all of them are integers that `int(s)` reads, or all stay texts and the greatest text
happens to be the greatest number. -/
theorem returnsMaximum_iff (checkpointCol : Text) (pages : List (List (Option Numeral))) :
    ReturnsMaximum checkpointCol pages ↔ ComparesNumbers (numbersOn pages) := by
  constructor
  · rintro ⟨v, hmax, hall⟩
    have hfold := hall pages (List.Perm.refl _)
    rw [maxDynamodb_scanning] at hfold
    have hle : ∀ m ∈ numbersOn pages, ∃ w, v = some w ∧ (parseText m.text).AtMost w :=
      fun m hm => (foldlM_greaterOf_spec CheckpointValue.decides_gt hfold).2.1 _
        (List.mem_map_of_mem hm)
    cases v with
    | none =>
      have hnil : numbersOn pages = [] := hmax
      exact .inl fun m hm => absurd hm (hnil ▸ List.not_mem_nil)
    | some v =>
      obtain ⟨m, hm, hdenotes, hgreatest⟩ := hmax
      cases v with
      | int n =>
        refine .inl fun m' hm' => (exists_parseText_eq_int_iff m').mp ?_
        obtain ⟨w, hw, hle'⟩ := hle m' hm'
        obtain rfl := Option.some.inj hw
        cases hparsed : parseText m'.text with
        | int n' => exact ⟨n', rfl⟩
        | datetime d => rw [hparsed] at hle'; exact hle'.elim
        | str s => rw [hparsed] at hle'; exact hle'.elim
      | datetime d => exact hdenotes.elim
      | str s =>
        have htext : ∀ m' ∈ numbersOn pages, parseText m'.text = .str m'.text ∧ m'.text ≤ s := by
          intro m' hm'
          obtain ⟨w, hw, hle'⟩ := hle m' hm'
          obtain rfl := Option.some.inj hw
          cases hparsed : parseText m'.text with
          | int n' => rw [hparsed] at hle'; exact hle'.elim
          | datetime d => rw [hparsed] at hle'; exact hle'.elim
          | str s' =>
            rw [hparsed] at hle'
            rw [text_of_parseText hparsed]
            exact ⟨rfl, hle'⟩
        obtain rfl : s = m.text := hdenotes
        exact .inr ⟨fun m' hm' => ⟨_, (htext m' hm').1⟩, m, hm,
          fun m' hm' => ⟨(htext m' hm').2, hgreatest m' hm'⟩⟩
  · rintro (hints | ⟨htexts, m, hm, hgreatest⟩)
    · exact returnsMaximum_of_integers checkpointCol fun m hm =>
        (exists_parseText_eq_int_iff m).mpr (hints m hm)
    · exact returnsMaximum_of_texts checkpointCol htexts hm hgreatest

/-- Of 9.5 and 10.5, the scan returns 9.5. -/
theorem not_returnsMaximum_fractions :
    ¬ReturnsMaximum "id".toList
      [[some ⟨.none, [9], some [5], none, by decide⟩], [],
        [none, some ⟨.none, [1, 0], some [5], none, by decide⟩]] := by
  rintro ⟨v, hmax, hall⟩
  obtain rfl : v = some (.str "9.5".toList) :=
    Except.ok.inj ((hall _ (List.Perm.refl _)).symm.trans (by decide +kernel))
  obtain ⟨m, hm, hdenotes, hgreatest⟩ := hmax
  have htext : "9.5".toList = m.text := hdenotes
  have hle := hgreatest ⟨.none, [1, 0], some [5], none, by decide⟩ (.tail _ (.head _))
  rcases List.mem_cons.mp hm with rfl | hm
  · exact absurd hle (by decide +kernel)
  · obtain rfl := List.mem_singleton.mp hm
    exact absurd htext (by decide +kernel)

end BatchIngestion
