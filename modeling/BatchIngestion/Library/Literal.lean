import Mathlib.Data.List.Basic

/-!
# Quoted literals in a text

A literal stands between quotes. Its body is read unit by unit: an escape sequence, or a plain
symbol that stands for itself. A literal takes up more symbols than it denotes, so that a text in
quotes denotes itself exactly when each of its units does.
-/

namespace BatchIngestion.Library

variable {α : Type}

/-- A reader of literals at the start of a text: what the literal denotes, and the rest. -/
structure LiteralReader (α : Type) where
  /-- Read a literal. -/
  read : List α → Option (List α × List α)
  /-- A literal takes up more symbols than it denotes. -/
  read_spec : ∀ {t s rest}, read t = some (s, rest) →
    ∃ taken, t = taken ++ rest ∧ s.length < taken.length

/-- A syntax of quoted literals. -/
structure LiteralSyntax (α : Type) where
  /-- The quote. -/
  quote : α
  /-- Whether a symbol stands for itself. -/
  plain : α → Bool
  /-- Read an escape sequence. -/
  escape : List α → Option (List α × List α)
  /-- An escape sequence denotes itself, or fewer symbols than it takes up. -/
  escape_spec : ∀ {t s rest}, escape t = some (s, rest) →
    ∃ taken, taken ≠ [] ∧ t = taken ++ rest ∧ (s = taken ∨ s.length < taken.length)

namespace LiteralSyntax

variable (σ : LiteralSyntax α)

/-- An escape sequence leaves less text. -/
theorem length_lt_of_escape {t s rest : List α} (h : σ.escape t = some (s, rest)) :
    rest.length < t.length := by
  obtain ⟨taken, hne, rfl, -⟩ := σ.escape_spec h
  have := List.length_pos_iff.mpr hne
  rw [List.length_append]
  omega

variable [DecidableEq α]

/-- The body of a literal, up to its closing quote. -/
def readBody (t : List α) : Option (List α × List α) :=
  match h : σ.escape t with
  | some (s, rest) =>
    have := σ.length_lt_of_escape h
    (readBody rest).map fun next => (s ++ next.1, next.2)
  | none =>
    match t with
    | [] => none
    | c :: t =>
      if c = σ.quote then some ([], t)
      else if σ.plain c then (readBody t).map fun next => (c :: next.1, next.2)
      else none
termination_by t.length
decreasing_by
  · assumption
  · exact Nat.lt_succ_self _

variable {σ}

/-- The body at an escape sequence. -/
theorem readBody_of_escape {t s rest : List α} (h : σ.escape t = some (s, rest)) :
    σ.readBody t = (σ.readBody rest).map fun next => (s ++ next.1, next.2) := by
  rw [readBody]
  split
  · rename_i s' rest' h'
    obtain ⟨rfl, rfl⟩ := Prod.mk.inj (Option.some.inj (h'.symm.trans h))
    rfl
  · rename_i h'
    rw [h] at h'
    cases h'

/-- The body of an unfinished literal. -/
theorem readBody_nil (h : σ.escape [] = none) : σ.readBody [] = none := by
  rw [readBody]
  split
  · rename_i h'
    rw [h] at h'
    cases h'
  · rfl

/-- The body at any other symbol. -/
theorem readBody_cons {c : α} {t : List α} (h : σ.escape (c :: t) = none) :
    σ.readBody (c :: t) = if c = σ.quote then some ([], t)
      else if σ.plain c then (σ.readBody t).map fun next => (c :: next.1, next.2) else none := by
  rw [readBody]
  split
  · rename_i h'
    rw [h] at h'
    cases h'
  · rfl

/-- A body takes up more symbols than it denotes. -/
theorem readBody_spec {t s rest : List α} (h : σ.readBody t = some (s, rest)) :
    ∃ taken, t = taken ++ rest ∧ s.length < taken.length := by
  induction hn : t.length using Nat.strongRecOn generalizing t s with
  | _ n ih =>
    subst hn
    cases hescape : σ.escape t with
    | some escaped =>
      obtain ⟨e, t'⟩ := escaped
      rw [readBody_of_escape hescape] at h
      obtain ⟨⟨s', rest'⟩, hbody, heq⟩ := Option.map_eq_some_iff.mp h
      obtain ⟨rfl, rfl⟩ := Prod.mk.inj heq
      obtain ⟨taken', rfl, hlength'⟩ := ih _ (σ.length_lt_of_escape hescape) hbody rfl
      obtain ⟨taken, -, rfl, hlength⟩ := σ.escape_spec hescape
      have hle : e.length ≤ taken.length := by
        rcases hlength with rfl | hlt
        · exact Nat.le_refl _
        · exact Nat.le_of_lt hlt
      refine ⟨taken ++ taken', (List.append_assoc _ _ _).symm, ?_⟩
      simp only [List.length_append]
      omega
    | none =>
      cases t with
      | nil =>
        rw [readBody_nil hescape] at h
        cases h
      | cons c t =>
        rw [readBody_cons hescape] at h
        split at h
        · obtain ⟨rfl, rfl⟩ := Prod.mk.inj (Option.some.inj h)
          exact ⟨[c], rfl, Nat.zero_lt_one⟩
        · split at h
          · obtain ⟨⟨s', rest'⟩, hbody, heq⟩ := Option.map_eq_some_iff.mp h
            obtain ⟨rfl, rfl⟩ := Prod.mk.inj heq
            obtain ⟨taken, rfl, hlength⟩ := ih _ (Nat.lt_succ_self _) hbody rfl
            exact ⟨c :: taken, rfl, Nat.succ_lt_succ hlength⟩
          · cases h

/-- The body of a literal, without an opening quote. -/
def bodyReader (σ : LiteralSyntax α) : LiteralReader α where
  read := σ.readBody
  read_spec := readBody_spec

/-- A literal, from its opening quote. -/
def reader (σ : LiteralSyntax α) : LiteralReader α where
  read
    | [] => none
    | c :: t => if c = σ.quote then σ.readBody t else none
  read_spec {t s rest} h := by
    cases t with
    | nil => cases h
    | cons c t =>
      dsimp only at h
      split at h
      · obtain ⟨taken, rfl, hlength⟩ := readBody_spec h
        exact ⟨c :: taken, rfl, Nat.lt_trans hlength (Nat.lt_succ_self _)⟩
      · cases h

/-- The reader at an opening quote. -/
theorem reader_read_quote (t : List α) : σ.reader.read (σ.quote :: t) = σ.readBody t :=
  if_pos rfl

/-! ### Texts that denote themselves -/

/-- Before `rest`, every unit of a text stands for itself. -/
inductive Verbatim (σ : LiteralSyntax α) (rest : List α) : List α → Prop
  /-- The empty text. -/
  | nil : Verbatim σ rest []
  /-- A plain symbol. -/
  | plain {c : α} {s : List α} (escape : σ.escape (c :: (s ++ rest)) = none) (quote : c ≠ σ.quote)
      (plain : σ.plain c = true) (next : Verbatim σ rest s) : Verbatim σ rest (c :: s)
  /-- An escape sequence that denotes itself. -/
  | escape {e s : List α} (escape : σ.escape (e ++ (s ++ rest)) = some (e, s ++ rest))
      (next : Verbatim σ rest s) : Verbatim σ rest (e ++ s)

/-- **A text in quotes denotes itself** exactly when each of its units does. -/
theorem readBody_eq_self_iff {s rest : List α} (hclose : σ.escape (σ.quote :: rest) = none) :
    σ.readBody (s ++ σ.quote :: rest) = some (s, rest) ↔ σ.Verbatim (σ.quote :: rest) s := by
  constructor
  · intro h
    induction hn : s.length using Nat.strongRecOn generalizing s with
    | _ n ih =>
      subst hn
      cases hescape : σ.escape (s ++ σ.quote :: rest) with
      | some escaped =>
        obtain ⟨e, t⟩ := escaped
        rw [readBody_of_escape hescape] at h
        obtain ⟨⟨s', rest'⟩, hbody, heq⟩ := Option.map_eq_some_iff.mp h
        obtain ⟨rfl, rfl⟩ := Prod.mk.inj heq
        obtain ⟨taken, hne, htext, hself⟩ := σ.escape_spec hescape
        obtain ⟨taken', rfl, hlength⟩ := readBody_spec hbody
        -- A shorter unit would leave more text than the literal has.
        have hsum := congrArg List.length htext
        simp only [List.length_append, List.length_cons] at hsum
        obtain rfl : e = taken := hself.resolve_right fun hlt => by omega
        rw [List.append_assoc, List.append_cancel_left_eq] at htext
        rw [List.append_assoc, ← htext] at hescape
        rw [← htext] at hbody
        have hpos := List.length_pos_iff.mpr hne
        refine .escape hescape (ih _ ?_ hbody rfl)
        rw [List.length_append]
        omega
      | none =>
        cases s with
        | nil => exact .nil
        | cons c s =>
          rw [List.cons_append] at h hescape
          rw [readBody_cons hescape] at h
          split at h
          · cases h
          · rename_i hquote
            split at h
            · rename_i hplain
              obtain ⟨⟨s', rest'⟩, hbody, heq⟩ := Option.map_eq_some_iff.mp h
              obtain ⟨hs, rfl⟩ := Prod.mk.inj heq
              obtain rfl := (List.cons.inj hs).2
              exact .plain hescape hquote hplain (ih _ (Nat.lt_succ_self _) hbody rfl)
            · cases h
  · intro h
    induction h with
    | nil => rw [List.nil_append, readBody_cons hclose, if_pos rfl]
    | plain hescape hquote hplain _ ih =>
      rw [List.cons_append, readBody_cons hescape, if_neg hquote, if_pos hplain, ih]
      rfl
    | escape hescape _ ih =>
      rw [List.append_assoc, readBody_of_escape hescape, ih]
      rfl

omit [DecidableEq α] in
/-- Where every escape sequence denotes less than itself, the plain symbols are all that denotes
itself. -/
theorem verbatim_iff_forall_plain
    (hshrink : ∀ {t s rest}, σ.escape t = some (s, rest) →
      ∃ taken, t = taken ++ rest ∧ s.length < taken.length)
    (hplain : ∀ c t, σ.plain c = true → σ.escape (c :: t) = none) {s rest : List α} :
    σ.Verbatim rest s ↔ ∀ c ∈ s, c ≠ σ.quote ∧ σ.plain c = true := by
  constructor
  · intro h
    induction h with
    | nil => exact fun c hc => absurd hc List.not_mem_nil
    | plain _ hquote hplain _ ih => exact List.forall_mem_cons.mpr ⟨⟨hquote, hplain⟩, ih⟩
    | escape hescape _ _ =>
      obtain ⟨taken, htext, hlength⟩ := hshrink hescape
      rw [List.append_cancel_right htext] at hlength
      exact absurd hlength (Nat.lt_irrefl _)
  · intro h
    induction s with
    | nil => exact .nil
    | cons c s ih =>
      obtain ⟨⟨hquote, hc⟩, hs⟩ := List.forall_mem_cons.mp h
      exact .plain (hplain c _ hc) hquote hc (ih hs)

/-- The literals without escape sequences. -/
def unescaped (quote : α) (plain : α → Bool) : LiteralSyntax α where
  quote
  plain
  escape _ := none
  escape_spec h := by cases h

/-- A literal without escape sequences denotes itself if all its symbols are plain. -/
theorem read_unescaped_iff (quote : α) (plain : α → Bool) (hquote : plain quote = false)
    (s rest : List α) : (unescaped quote plain).readBody (s ++ quote :: rest) = some (s, rest) ↔
      ∀ c ∈ s, plain c = true := by
  refine (readBody_eq_self_iff (σ := unescaped quote plain) rfl).trans ?_
  rw [verbatim_iff_forall_plain (σ := unescaped quote plain) (fun h => by cases h) fun _ _ _ => rfl]
  refine forall₂_congr fun c _ => and_iff_right_of_imp fun hc heq => ?_
  obtain rfl : c = quote := heq
  exact Bool.false_ne_true (hquote.symm.trans hc)

end LiteralSyntax

/-! ### Literals in sequence -/

/-- A place for a literal: a fixed text, and the reader of the literal after it. -/
structure Slot (α : Type) where
  /-- The fixed text. -/
  lead : List α
  /-- The reader. -/
  reader : LiteralReader α

variable [DecidableEq α]

/-- The literals of successive slots, and the rest. -/
def readSlots : List (Slot α) → List α → Option (List (List α) × List α)
  | [], t => some ([], t)
  | slot :: slots, t =>
    if t.take slot.lead.length = slot.lead then
      match slot.reader.read (t.drop slot.lead.length) with
      | some (value, rest) => (readSlots slots rest).map fun next => (value :: next.1, next.2)
      | none => none
    else none

/-- A slot with a value, and the symbol that ends it. -/
structure FilledSlot (α : Type) extends Slot α where
  /-- The value. -/
  value : List α
  /-- The symbol after the value. -/
  close : α

/-- The text of filled slots, before the rest of a text. -/
def joinParts : List (FilledSlot α) → List α → List α
  | [], rest => rest
  | part :: parts, rest => part.lead ++ (part.value ++ part.close :: joinParts parts rest)

/-- The text at a slot, taken apart. -/
theorem readSlots_cons_eq_some_iff {slot : Slot α} {slots : List (Slot α)} {t rest : List α}
    {values : List (List α)} :
    readSlots (slot :: slots) (slot.lead ++ t) = some (values, rest) ↔
      ∃ value t' values', slot.reader.read t = some (value, t') ∧
        readSlots slots t' = some (values', rest) ∧ values = value :: values' := by
  rw [readSlots, List.take_left, if_pos rfl, List.drop_left]
  cases hread : slot.reader.read t with
  | none => simp
  | some literal =>
    obtain ⟨value, t'⟩ := literal
    constructor
    · intro h
      obtain ⟨⟨values', rest'⟩, hslots, heq⟩ := Option.map_eq_some_iff.mp h
      obtain ⟨rfl, rfl⟩ := Prod.mk.inj heq
      exact ⟨value, t', values', rfl, hslots, rfl⟩
    · rintro ⟨_, _, values', heq, hslots, rfl⟩
      obtain ⟨rfl, rfl⟩ := Prod.mk.inj (Option.some.inj heq)
      exact Option.map_eq_some_iff.mpr ⟨_, hslots, rfl⟩

/-- Successive slots take up more symbols than their fixed texts and what the literals denote. -/
theorem readSlots_spec {slots : List (Slot α)} {t rest : List α} {values : List (List α)}
    (h : readSlots slots t = some (values, rest)) :
    ∃ taken, t = taken ++ rest ∧ (slots.map Slot.lead).flatten.length + values.flatten.length +
      values.length ≤ taken.length := by
  induction slots generalizing t values with
  | nil =>
    obtain ⟨rfl, rfl⟩ := Prod.mk.inj (Option.some.inj h)
    exact ⟨[], rfl, Nat.le_refl _⟩
  | cons slot slots ih =>
    obtain ⟨t, rfl⟩ : ∃ t', t = slot.lead ++ t' := by
      rw [readSlots] at h
      split at h
      · rename_i htake
        exact ⟨t.drop slot.lead.length, by
          conv_lhs => rw [← List.take_append_drop slot.lead.length t, htake]⟩
      · cases h
    obtain ⟨value, t', values', hread, hslots, rfl⟩ := readSlots_cons_eq_some_iff.mp h
    obtain ⟨taken', rfl, hlength'⟩ := ih hslots
    obtain ⟨taken, rfl, hlength⟩ := slot.reader.read_spec hread
    refine ⟨slot.lead ++ taken ++ taken', by simp only [List.append_assoc], ?_⟩
    simp only [List.map_cons, List.flatten_cons, List.length_append, List.length_cons]
    omega

omit [DecidableEq α] in
/-- The length of a text of parts. -/
theorem length_joinParts (parts : List (FilledSlot α)) (rest : List α) :
    (joinParts parts rest).length =
      ((parts.map FilledSlot.toSlot).map Slot.lead).flatten.length +
        (parts.map FilledSlot.value).flatten.length + parts.length + rest.length := by
  induction parts with
  | nil => simp [joinParts]
  | cons part parts ih =>
    simp only [joinParts, List.length_append, List.length_cons, ih, List.map_cons,
      List.flatten_cons]
    omega

/-- **Parts are read back** exactly when each part is. No part can make up for what another one
takes. -/
theorem readSlots_joinParts_iff {p : FilledSlot α → Prop} {parts : List (FilledSlot α)}
    (h : ∀ part ∈ parts, ∀ rest, part.reader.read (part.value ++ part.close :: rest) =
      some (part.value, rest) ↔ p part) (rest : List α) :
    readSlots (parts.map FilledSlot.toSlot) (joinParts parts rest) =
      some (parts.map FilledSlot.value, rest) ↔ ∀ part ∈ parts, p part := by
  induction parts with
  | nil => exact iff_of_true rfl fun part hpart => absurd hpart List.not_mem_nil
  | cons part parts ih =>
    obtain ⟨hpart, hparts⟩ := List.forall_mem_cons.mp h
    rw [List.forall_mem_cons, ← ih hparts, ← hpart (joinParts parts rest)]
    refine readSlots_cons_eq_some_iff.trans ⟨?_, fun ⟨hfirst, hnext⟩ =>
      ⟨_, _, _, hfirst, hnext, rfl⟩⟩
    rintro ⟨value, t, values, hfirst, hnext, hvalues⟩
    obtain ⟨rfl, rfl⟩ := List.cons.inj hvalues
    -- The first part takes up its value and its end, since the others need all that follows.
    obtain ⟨taken, htext, hlength⟩ := part.reader.read_spec hfirst
    obtain ⟨taken', rfl, hlength'⟩ := readSlots_spec hnext
    have hsum := congrArg List.length htext
    have hjoin := length_joinParts parts rest
    simp only [List.length_append, List.length_cons, List.length_map] at hsum hlength'
    have hrest : joinParts parts rest = taken' ++ rest := by
      have hsplit : (part.value ++ [part.close]) ++ joinParts parts rest =
          taken ++ (taken' ++ rest) := by
        rw [List.append_assoc]
        exact htext
      refine (List.append_inj' hsplit ?_).2
      rw [List.length_append]
      omega
    rw [hrest] at hfirst ⊢
    exact ⟨hfirst, hnext⟩

/-! ### Literals between fixed texts -/

/-- The literals of a text in which they stand between fixed texts. -/
def LiteralReader.readBetween (reader : LiteralReader α) :
    List (List α) → List α → Option (List (List α))
  | [], t => if t = [] then some [] else none
  | [last], t => if t = last then some [] else none
  | fixed :: next :: fixeds, t =>
    if t.take fixed.length = fixed then
      match reader.read (t.drop fixed.length) with
      | some (value, rest) =>
        (reader.readBetween (next :: fixeds) rest).map fun values => value :: values
      | none => none
    else none

/-- The text takes up more symbols than the fixed texts and what the literals denote. -/
theorem LiteralReader.length_le_of_readBetween {reader : LiteralReader α}
    {fixeds values : List (List α)} {t : List α}
    (h : reader.readBetween fixeds t = some values) :
    fixeds.flatten.length + values.flatten.length + values.length ≤ t.length := by
  induction fixeds generalizing t values with
  | nil =>
    rw [readBetween] at h
    split at h
    · obtain rfl := Option.some.inj h
      exact Nat.zero_le _
    · cases h
  | cons fixed fixeds ih =>
    cases fixeds with
    | nil =>
      rw [readBetween] at h
      split at h
      · rename_i heq
        obtain rfl := Option.some.inj h
        simp [heq]
      · cases h
    | cons next fixeds =>
      rw [readBetween] at h
      split at h
      · rename_i htake
        cases hread : reader.read (t.drop fixed.length) with
        | none =>
          rw [hread] at h
          cases h
        | some literal =>
          obtain ⟨value, rest⟩ := literal
          rw [hread] at h
          obtain ⟨values', hvalues, rfl⟩ := Option.map_eq_some_iff.mp h
          obtain ⟨taken, hdrop, hlength⟩ := reader.read_spec hread
          have htext := congrArg List.length (List.take_append_drop fixed.length t)
          have := ih hvalues
          rw [htake, hdrop] at htext
          simp only [List.length_append] at htext
          simp only [List.flatten_cons, List.length_append, List.length_cons] at this ⊢
          omega
      · cases h

/-- One literal between two fixed texts. -/
theorem LiteralReader.readBetween_pair_iff {reader : LiteralReader α}
    {fixed last t value : List α} :
    reader.readBetween [fixed, last] (fixed ++ t) = some [value] ↔
      reader.read t = some (value, last) := by
  rw [readBetween, List.take_left, if_pos rfl, List.drop_left]
  cases reader.read t with
  | none => simp
  | some literal =>
    obtain ⟨value', rest⟩ := literal
    by_cases hrest : rest = last <;> simp [readBetween, hrest]

end BatchIngestion.Library
