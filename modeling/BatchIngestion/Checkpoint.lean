import BatchIngestion.Python.IsoRoundTrip

/-!
# Checkpoint values and their texts

A checkpoint is an integer, a point in time or a raw string. It travels through
two encoders and an untyped text column: a tagged XCom entry, the `str` of the
entry's value, and the text that `parse_checkpoint` takes apart again by guessing
the type. The three images never overlap, so the chain gives the value back.
-/

namespace BatchIngestion

open Python

/-- `CheckpointValue`: the Python union of `int`, `datetime` and `str`. -/
inductive CheckpointValue
  /-- An integer, of an id column. -/
  | int (value : ℤ)
  /-- A point in time. -/
  | datetime (value : DateTime)
  /-- A raw string, such as a Kafka offset map. -/
  | str (value : Text)
  deriving DecidableEq

/-- What a database driver or a client library reports for one value. -/
inductive RawValue
  /-- `None`. -/
  | none
  /-- A `bool`. -/
  | bool (value : Bool)
  /-- An `int`. -/
  | int (value : ℤ)
  /-- A finite `float` or `Decimal`. -/
  | number (value : ℚ)
  /-- A `float` or `Decimal` that is no number. -/
  | nan
  /-- An infinite `float` or `Decimal`. -/
  | infinity
  /-- A `datetime`. -/
  | datetime (value : DateTime)
  /-- Any other value, by its `str`. -/
  | text (value : Text)
  deriving DecidableEq

/-- The string fallback of `_parse_checkpoint`: an integer, then an ISO timestamp,
then the stripped string itself. -/
def parseText (val : Text) : CheckpointValue :=
  let s := strip val
  match parseInt s with
  | some n => .int n
  | none =>
    match fromisoformat s with
    | some d => .datetime d
    | none => .str s

/-- `_parse_checkpoint`. -/
def parseCheckpoint : RawValue → Except PyExc (Option CheckpointValue)
  | .none => .ok none
  | .datetime d => .ok (some (.datetime d))
  | .bool b => .error (.typeError
      ("Boolean is not a valid checkpoint value: " ++ if b then "True" else "False" : String))
  | .int n => .ok (some (.int n))
  | .number q => .ok (some (.int (q.num.tdiv q.den)))
  | .nan => .error (.valueError "cannot convert float NaN to integer")
  | .infinity => .error (.overflowError "cannot convert float infinity to integer")
  | .text s => .ok (some (parseText s))

/-- The dictionary `{"t": tag, "v": value}` that carries a checkpoint through XCom. -/
inductive TaggedCheckpoint
  /-- Tag `ts`. -/
  | ts (v : Text)
  /-- Tag `str`. -/
  | str (v : Text)
  /-- Tag `int`. -/
  | int (v : ℤ)
  deriving DecidableEq

/-- `_serialise_checkpoint` of a value that is not `None`. -/
def CheckpointValue.serialise : CheckpointValue → TaggedCheckpoint
  | .datetime d => .ts (isoformat 'T' d)
  | .str s => .str s
  | .int n => .int n

/-- `_serialise_checkpoint`. -/
def serialiseCheckpoint (val : Option CheckpointValue) : Option TaggedCheckpoint :=
  val.map CheckpointValue.serialise

/-- `_deserialise_checkpoint`. -/
def deserialiseCheckpoint : Option TaggedCheckpoint → Except PyExc (Option CheckpointValue)
  | none => .ok none
  | some (.ts v) =>
    match fromisoformat v with
    | some d => .ok (some (.datetime d))
    | none => .error (.valueError "Invalid isoformat string")
  | some (.int v) => .ok (some (.int v))
  | some (.str v) => .ok (some (.str v))

/-- `str(raw.get("v", "")) or None`: the text that is published and saved. -/
def TaggedCheckpoint.text : TaggedCheckpoint → Except PyExc (Option Text)
  | .ts v | .str v => .ok (if v = [] then none else some v)
  | .int v => (intStr v).map some

/-- The text of an XCom entry that may be `None`. -/
def checkpointText : Option TaggedCheckpoint → Except PyExc (Option Text)
  | none => .ok none
  | some tagged => tagged.text

/-- `str(value)` of a checkpoint inside an f-string. -/
def CheckpointValue.format : CheckpointValue → Except PyExc Text
  | .int n => intStr n
  | .datetime d => .ok (isoformat ' ' d)
  | .str s => .ok s

/-- The truth value of an optional checkpoint: `None`, zero and the empty string are
false, every `datetime` is true. -/
def truthyCheckpoint : Option CheckpointValue → Bool
  | none => false
  | some (.int n) => n != 0
  | some (.datetime _) => true
  | some (.str s) => s != []

/-- A value that reading its own text gives back. -/
def CheckpointValue.Stable : CheckpointValue → Prop
  | .str s => parseText s = .str s
  | _ => True

/-! ### XCom -/

/-- The tagged entry is lossless. -/
@[simp] theorem deserialiseCheckpoint_serialiseCheckpoint (val : Option CheckpointValue) :
    deserialiseCheckpoint (serialiseCheckpoint val) = .ok val := by
  rcases val with _ | n | d | s
  · rfl
  · rfl
  · simp [serialiseCheckpoint, CheckpointValue.serialise, deserialiseCheckpoint,
      fromisoformat_isoformat]
  · rfl

/-! ### The three images are disjoint -/

/-- A digit or a separator of an ISO text. -/
def IsIsoChar (c : Char) : Prop := (∃ m < 10, c = m.digitChar) ∨ c ∈ ['-', ':', '.', '+']

/-- The digits of a number are characters of an ISO text. -/
theorem isIsoChar_of_mem_zfill {w n : ℕ} {c : Char} (hc : c ∈ zfill w n) : IsIsoChar c :=
  .inl (exists_digitChar_of_mem_zfill hc)

/-- A fraction consists of characters of an ISO text. -/
theorem isIsoChar_of_mem_isoFraction {micros : ℕ} {c : Char} (hc : c ∈ isoFraction micros) :
    IsIsoChar c := by
  unfold isoFraction at hc
  split at hc
  · simp at hc
  · rcases List.mem_cons.mp hc with rfl | hc
    · exact .inr (by decide)
    · exact isIsoChar_of_mem_zfill hc

/-- An offset consists of characters of an ISO text. -/
theorem isIsoChar_of_mem_isoOffset {o : UtcOffset} {c : Char} (hc : c ∈ isoOffset o) :
    IsIsoChar c := by
  unfold isoOffset isoOffsetDigits at hc
  simp only [List.mem_cons, List.mem_append] at hc
  rcases hc with rfl | hc | rfl | hc | hc
  · split <;> exact .inr (by decide)
  · exact isIsoChar_of_mem_zfill hc
  · exact .inr (by decide)
  · exact isIsoChar_of_mem_zfill hc
  · split at hc
    · simp at hc
    · simp only [List.mem_cons, List.mem_append] at hc
      rcases hc with rfl | hc | hc
      · exact .inr (by decide)
      · exact isIsoChar_of_mem_zfill hc
      · exact isIsoChar_of_mem_isoFraction hc

/-- The characters of an ISO text are digits and separators. -/
theorem isIsoChar_of_mem_isoformat {sep : Char} {d : DateTime} {c : Char}
    (hc : c ∈ isoformat sep d) : c = sep ∨ IsIsoChar c := by
  simp only [isoformat, isoDate, isoTime, List.mem_append, List.mem_cons] at hc
  rcases hc with (hc | rfl | hc | rfl | hc) | rfl | (hc | rfl | hc | rfl | hc | hc) | hc
  case inr.inl => exact .inl rfl
  case inl.inr.inl | inl.inr.inr.inr.inl | inr.inr.inl.inr.inl | inr.inr.inl.inr.inr.inr.inl =>
    exact .inr (.inr (by decide))
  case inr.inr.inl.inr.inr.inr.inr.inr => exact .inr (isIsoChar_of_mem_isoFraction hc)
  case inr.inr.inr =>
    cases hd : d.offset with
    | none => simp [hd] at hc
    | some o => exact .inr (isIsoChar_of_mem_isoOffset (by simpa [hd] using hc))
  all_goals exact .inr (isIsoChar_of_mem_zfill hc)

/-- An ISO text has no white space at its ends. -/
theorem strip_isoformat (d : DateTime) : strip (isoformat 'T' d) = isoformat 'T' d := by
  have hall : ∀ c ∈ isoformat 'T' d, isSpace c = false := by
    intro c hc
    rcases isIsoChar_of_mem_isoformat hc with rfl | ⟨m, hm, rfl⟩ | hc
    · rfl
    · exact isSpace_digitChar hm
    · simp only [List.mem_cons, List.not_mem_nil, or_false] at hc
      rcases hc with rfl | rfl | rfl | rfl <;> rfl
  exact strip_eq_self (fun c hc => hall c (List.mem_of_mem_head? hc))
    (fun c hc => hall c (List.mem_of_mem_getLast? hc))

/-- An ISO text is no integer. -/
theorem parseInt_isoformat (d : DateTime) : parseInt (isoformat 'T' d) = none := by
  rw [parseInt, strip_isoformat]
  refine ite_eq_right_iff.mpr fun _ => ?_
  obtain ⟨t, ht⟩ : ∃ t, isoformat 'T' d = zfill 4 d.naive.year ++ '-' :: t :=
    ⟨_, by simp [isoformat, isoDate]; rfl⟩
  have hdigits : ∀ c ∈ zfill 4 d.naive.year, ∃ m < 10, c = m.digitChar :=
    fun c hc => exists_digitChar_of_mem_zfill hc
  rw [ht]
  cases hyear : zfill 4 d.naive.year with
  | nil => simp [zfill] at hyear
  | cons c ds =>
    rw [hyear] at hdigits
    obtain ⟨m, hm, rfl⟩ := hdigits _ List.mem_cons_self
    rw [List.cons_append,
      parseSigned.eq_3 _ (by simp [digitChar_ne hm]) (by simp [digitChar_ne hm]), parseDigits,
      decimalDigit_digitChar hm, Option.bind_some,
      digitsAfter_eq_none (fun c hc => hdigits c (List.mem_cons_of_mem _ hc)) (by decide)
        (by decide), Option.map_none]

/-- Braces are not stripped. -/
theorem strip_braces (t : Text) : strip ('{' :: (t ++ ['}'])) = '{' :: (t ++ ['}']) := by
  refine strip_eq_self (fun c hc => ?_) fun c hc => ?_
  · obtain rfl : '{' = c := by simpa using hc
    rfl
  · rw [← List.cons_append, List.getLast?_append] at hc
    obtain rfl : '}' = c := by simpa using hc
    rfl

/-- A text in braces is neither an integer nor a timestamp. -/
theorem parseText_braces (t : Text) :
    parseText ('{' :: (t ++ ['}'])) = .str ('{' :: (t ++ ['}'])) := by
  have hint : parseInt ('{' :: (t ++ ['}'])) = none := by
    rw [parseInt, strip_braces]
    exact ite_eq_right_iff.mpr fun _ => rfl
  have hiso : fromisoformat ('{' :: (t ++ ['}'])) = none := by
    have hdate (index : ℕ) : parseIsoDate (('{' :: (t ++ ['}'])).take index) = none := by
      cases index <;> rfl
    unfold fromisoformat
    split
    · rfl
    · simp [hdate]
  rw [parseText, strip_braces]
  simp only [hint, hiso]

/-- Whatever `_parse_checkpoint` reads from a text, it reads again from its own text. -/
theorem parseText_stable (s : Text) : (parseText s).Stable := by
  cases hint : parseInt (strip s) with
  | some n =>
    have hs : parseText s = .int n := by simp only [parseText, hint]
    rw [hs]
    trivial
  | none =>
    cases hiso : fromisoformat (strip s) with
    | some d =>
      have hs : parseText s = .datetime d := by simp only [parseText, hint, hiso]
      rw [hs]
      trivial
    | none =>
      have hs : parseText s = .str (strip s) := by simp only [parseText, hint, hiso]
      have hstripped : parseText (strip s) = .str (strip s) := by
        simp only [parseText, strip_strip, hint, hiso]
      rw [hs]
      exact hstripped

/-- Every value that `_parse_checkpoint` computes is stable. -/
theorem parseCheckpoint_stable {raw : RawValue} {v : CheckpointValue}
    (h : parseCheckpoint raw = .ok (some v)) : v.Stable := by
  cases raw with
  | text s =>
    obtain rfl : parseText s = v := by simpa [parseCheckpoint] using h
    exact parseText_stable s
  | none | bool | int | number | nan | infinity | datetime =>
    simp only [parseCheckpoint, Except.ok.injEq, Option.some.injEq, reduceCtorEq] at h
    try subst h; trivial

/-- **The hand-off loses nothing**: the text that is saved for a stable value reads
back as the value, with its type. -/
theorem parseText_of_text {v : CheckpointValue} (hv : v.Stable) {text : Text}
    (h : v.serialise.text = .ok (some text)) : parseText text = v := by
  cases v with
  | int n =>
    have hint : intStr n = .ok text := by
      simp only [CheckpointValue.serialise, TaggedCheckpoint.text] at h
      cases hn : intStr n with
      | error e => simp [hn, Except.map] at h
      | ok s => simpa [hn, Except.map] using h
    have hparse := parseInt_of_intStr hint
    have hstrip : strip text = text := by
      unfold intStr at hint
      split at hint
      · obtain rfl : intText n = text := by simpa using hint
        exact strip_intText n
      · simp at hint
    rw [parseText, hstrip]
    simp only [hparse]
  | datetime d =>
    obtain rfl : isoformat 'T' d = text := by
      simp only [CheckpointValue.serialise, TaggedCheckpoint.text, Except.ok.injEq] at h
      split at h <;> simp_all
    rw [parseText, strip_isoformat]
    simp only [parseInt_isoformat, fromisoformat_isoformat]
  | str s =>
    obtain rfl : s = text := by
      simp only [CheckpointValue.serialise, TaggedCheckpoint.text, Except.ok.injEq] at h
      split at h <;> simp_all
    exact hv

end BatchIngestion
