import Mathlib.Data.Char
import Mathlib.Data.List.Lex
import Mathlib.Order.Lattice

/-!
# Lexicographic order of composed texts

Lists are ordered lexicographically. When two lists are composed of parts of equal
lengths, the first part that differs decides.
-/

namespace BatchIngestion.Library

variable {α : Type*} [LinearOrder α]

/-- Two concatenations whose first parts have one length compare by the first parts,
then by the second parts. -/
theorem append_lt_append_iff {a b c d : List α} (hlength : a.length = b.length) :
    a ++ c < b ++ d ↔ a < b ∨ (a = b ∧ c < d) := by
  induction a generalizing b with
  | nil =>
    obtain rfl : b = [] := List.length_eq_zero_iff.mp hlength.symm
    simp
  | cons x a ih =>
    cases b with
    | nil => simp at hlength
    | cons y b =>
      have hlength' : a.length = b.length := by simpa using hlength
      simp only [List.cons_append, List.cons_lt_cons_iff, ih hlength', List.cons.injEq]
      tauto

/-- A common head does not decide. -/
theorem cons_lt_cons_same_iff {x : α} {a b : List α} : x :: a < x :: b ↔ a < b := by
  simp

end BatchIngestion.Library
