import Mathlib.Data.List.DropRight
import StubHttp.Text.Columns

/-!
# Lines and columns read back

Pieces that each end in a mark are told apart again at the marks
(`splitOn_flatMap_mark`), and a field is told apart from the blanks behind it
unless it ends in one itself (`rdropWhile_append_blanks`).
-/

namespace StubHttp.Text

variable {α : Type} [BEq α] [LawfulBEq α]

/-- Behind the last mark there is nothing left. -/
theorem splitOn_flatMap_mark {mark : α} : ∀ {pieces : List (List α)},
    (∀ piece ∈ pieces, mark ∉ piece) →
      (pieces.flatMap (· ++ [mark])).splitOn mark = pieces ++ [[]]
  | [], _ => List.splitOn_nil mark
  | piece :: pieces, h => by
      obtain ⟨hpiece, hpieces⟩ := List.forall_mem_cons.mp h
      rw [List.flatMap_cons, List.append_assoc, List.singleton_append,
        List.splitOn_append_cons_self_of_not_mem hpiece, splitOn_flatMap_mark hpieces,
        List.cons_append]

@[simp] theorem toList_blanks (n : Nat) : (blanks n).toList = List.replicate n ' ' := by
  rw [blanks, String.toList_ofList]

@[simp] theorem length_blanks (n : Nat) : (blanks n).length = n := by
  rw [← String.length_toList, toList_blanks, List.length_replicate]

theorem blanks_add (m n : Nat) : blanks (m + n) = blanks m ++ blanks n := by
  rw [← String.toList_inj, String.toList_append]
  simp only [toList_blanks, List.replicate_add]

/-- A field that does not end in a blank is what is left without the blanks behind it. -/
theorem rdropWhile_append_blanks {field : List Char} (h : field.getLast? ≠ some ' ') (n : Nat) :
    (field ++ List.replicate n ' ').rdropWhile (· = ' ') = field := by
  induction n with
  | zero =>
      rw [List.replicate_zero, List.append_nil, List.rdropWhile_eq_self_iff]
      intro hne hlast
      exact h (by rw [List.getLast?_eq_some_getLast hne, of_decide_eq_true hlast])
  | succ n ih =>
      rw [List.replicate_succ', ← List.append_assoc, List.rdropWhile_concat_pos _ _ _ (by decide), ih]

end StubHttp.Text
