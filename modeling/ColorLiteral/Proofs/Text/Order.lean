import ColorLiteral.Text.Basic
import Mathlib.Data.Char
import Mathlib.Data.List.Lex
import Mathlib.Data.List.Sort

/-!
# The order of texts by code points

`Text.precedes` decides the lexicographic order of texts (`precedes_iff_lt`). Different texts that
are sorted by it stand in strictly increasing order (`pairwise_lt_sorted`).
-/

namespace ColorLiteral.Text

theorem precedes_iff_lt {s t : Text} : s.precedes t = true ↔ s < t := by
  induction s generalizing t with
  | nil => cases t <;> simp [precedes]
  | cons a s ih =>
    cases t with
    | nil => simp [precedes]
    | cons b t =>
      simp only [precedes, Bool.or_eq_true, decide_eq_true_eq, Bool.and_eq_true, beq_iff_eq, ih,
        List.cons_lt_cons_iff]
      rfl

theorem not_precedes_eq_le (s t : Text) : (!t.precedes s) = decide (s ≤ t) := by
  rw [Bool.eq_iff_iff, Bool.not_eq_true', Bool.eq_false_iff, ne_eq, precedes_iff_lt, not_lt,
    decide_eq_true_eq]

/-- Texts by their code points, each before those that do not precede it. -/
theorem pairwise_lt_sorted {texts : List Text} (h : texts.Nodup) :
    (texts.mergeSort fun s t => !t.precedes s).Pairwise (· < ·) := by
  simp only [not_precedes_eq_le]
  have hsorted := (List.sortedLE_mergeSort (l := texts)).pairwise
  have hdistinct : (texts.mergeSort fun s t => decide (s ≤ t)).Nodup :=
    (List.mergeSort_perm texts _).nodup_iff.2 h
  exact (hsorted.and hdistinct).imp fun hle => lt_of_le_of_ne hle.1 hle.2

end ColorLiteral.Text
