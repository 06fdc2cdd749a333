import BatchIngestion.Python.Text

/-!
# Lines

`str.splitlines` ends a line at each of the line boundaries of Unicode. Lines without such a
character that are joined by newlines are taken apart again.
-/

namespace BatchIngestion.Python

/-- The characters that end a line. -/
def isLineBreak (c : Char) : Bool :=
  let n := c.toNat
  (0x0a ≤ n && n ≤ 0x0d) || (0x1c ≤ n && n ≤ 0x1e) || n == 0x85 || n == 0x2028 || n == 0x2029

/-- The lines of a text that goes on with a line. -/
def splitlinesFrom (line : Text) : Text → List Text
  | [] => if line = [] then [] else [line]
  | '\r' :: '\n' :: t => line :: splitlinesFrom [] t
  | c :: t =>
    if isLineBreak c then line :: splitlinesFrom [] t else splitlinesFrom (line ++ [c]) t

/-- `str.splitlines()`. -/
def splitlines (t : Text) : List Text := splitlinesFrom [] t

/-- A character that ends no line belongs to the line. -/
theorem splitlinesFrom_cons {line : Text} {c : Char} (hc : isLineBreak c = false) (t : Text) :
    splitlinesFrom line (c :: t) = splitlinesFrom (line ++ [c]) t := by
  have hne : c ≠ '\r' := by
    rintro rfl
    cases hc
  rw [splitlinesFrom.eq_3 _ _ _ (fun _ h _ => hne h), hc]
  rfl

/-- So does a text of such characters. -/
theorem splitlinesFrom_append {line s : Text} (hs : ∀ c ∈ s, isLineBreak c = false) (t : Text) :
    splitlinesFrom line (s ++ t) = splitlinesFrom (line ++ s) t := by
  induction s generalizing line with
  | nil => rw [List.nil_append, List.append_nil]
  | cons c s ih =>
    rw [List.cons_append, splitlinesFrom_cons (hs c List.mem_cons_self),
      ih fun d hd => hs d (List.mem_cons_of_mem _ hd), List.append_assoc]
    rfl

/-- A newline ends the line. -/
theorem splitlinesFrom_newline (line t : Text) :
    splitlinesFrom line ('\n' :: t) = line :: splitlinesFrom [] t := by
  rw [splitlinesFrom.eq_3 _ _ _ (fun _ h _ => absurd h (by decide))]
  rfl

/-- **Joined lines are taken apart again.** -/
theorem splitlines_intercalate {lines : List Text}
    (h : ∀ line ∈ lines, line ≠ [] ∧ ∀ c ∈ line, isLineBreak c = false) :
    splitlines (['\n'].intercalate lines) = lines := by
  induction lines with
  | nil => rfl
  | cons line lines ih =>
    obtain ⟨⟨hne, hline⟩, hlines⟩ := List.forall_mem_cons.mp h
    have hread (t : Text) : splitlinesFrom [] (line ++ t) = splitlinesFrom line t :=
      splitlinesFrom_append hline t
    cases lines with
    | nil =>
      have hend := hread []
      rw [List.append_nil] at hend
      rw [List.intercalate_singleton, splitlines, hend, splitlinesFrom, if_neg hne]
    | cons next lines =>
      have hrest : splitlinesFrom [] (['\n'].intercalate (next :: lines)) = next :: lines :=
        ih hlines
      rw [List.intercalate_cons_cons, List.append_assoc, List.singleton_append, splitlines, hread,
        splitlinesFrom_newline, hrest]

end BatchIngestion.Python
