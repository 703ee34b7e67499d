import ColorLiteral.Suggestion
import Mathlib.Data.List.Infix
import Mathlib.Order.Bounds.Basic

/-!
# The longest common subsequence

The table of lengths is right: `commonLength s t` is the greatest length of a text that is a
subsequence of both `s` and `t` (`isGreatest_commonLength`).

A row of the table belongs to a text and to all ends of another one (`IsRow`), and one more character
in front of the first text makes a row out of a row (`isRow_extendRow`). In a single place of a row
there are two cases. Equal characters in front are used by some longest common subsequence, and of
two different ones at least one is not used.
-/

namespace ColorLiteral.Suggestion

variable {s t : Text} {a b : Char} {m n : Nat} {row : List Nat}

/-- The lengths of the common subsequences of two texts. -/
def commonLengths (s t : Text) : Set Nat :=
  {n | ∃ u : Text, u.Sublist s ∧ u.Sublist t ∧ u.length = n}

/-! ### One place of the table -/

theorem isGreatest_nil_left (t : Text) : IsGreatest (commonLengths [] t) 0 := by
  refine ⟨⟨[], .slnil, List.nil_sublist t, rfl⟩, ?_⟩
  rintro n ⟨u, hu, -, rfl⟩
  rw [List.sublist_nil.1 hu, List.length_nil]

theorem isGreatest_nil_right (s : Text) : IsGreatest (commonLengths s []) 0 := by
  refine ⟨⟨[], List.nil_sublist s, .slnil, rfl⟩, ?_⟩
  rintro n ⟨u, -, hu, rfl⟩
  rw [List.sublist_nil.1 hu, List.length_nil]

/-- Equal characters in front make every common subsequence longer that is a longest one. -/
theorem isGreatest_cons_same (h : IsGreatest (commonLengths s t) n) :
    IsGreatest (commonLengths (a :: s) (a :: t)) (n + 1) := by
  obtain ⟨⟨u, hs, ht, rfl⟩, hgreatest⟩ := h
  refine ⟨⟨a :: u, hs.cons_cons a, ht.cons_cons a, rfl⟩, ?_⟩
  rintro n ⟨w, hws, hwt, rfl⟩
  have hrest : w.tail.length ≤ u.length := hgreatest ⟨w.tail, hws.tail, hwt.tail, rfl⟩
  rw [List.length_tail] at hrest
  omega

/-- A common subsequence does not use both of two different characters in front. -/
theorem isGreatest_cons_of_ne (hab : a ≠ b) (hs : IsGreatest (commonLengths s (b :: t)) m)
    (ht : IsGreatest (commonLengths (a :: s) t) n) :
    IsGreatest (commonLengths (a :: s) (b :: t)) (max m n) := by
  constructor
  · rcases Nat.le_total n m with h | h
    · obtain ⟨u, hus, hut, hlength⟩ := hs.1
      exact ⟨u, hus.cons a, hut, by rw [hlength, Nat.max_eq_left h]⟩
    · obtain ⟨u, hus, hut, hlength⟩ := ht.1
      exact ⟨u, hus, hut.cons b, by rw [hlength, Nat.max_eq_right h]⟩
  · rintro k ⟨u, hus, hut, rfl⟩
    cases hus with
    | cons _ hus => exact (hs.2 ⟨u, hus, hut, rfl⟩).trans (Nat.le_max_left m n)
    | cons_cons _ hus =>
      have hut : (a :: _).Sublist t := hut.of_cons_of_ne hab
      exact (ht.2 ⟨_, hus.cons_cons a, hut, rfl⟩).trans (Nat.le_max_right m n)

/-! ### Rows of the table -/

/-- A row holds the greatest common lengths of a text and every end of another one. -/
def IsRow (s t : Text) (row : List Nat) : Prop :=
  List.Forall₂ (fun u n => IsGreatest (commonLengths s u) n) t.tails row

theorem IsRow.head (h : IsRow s t row) : IsGreatest (commonLengths s t) (row.headD 0) := by
  cases t with
  | nil => cases h with | cons hhead => exact hhead
  | cons b t => cases h with | cons hhead => exact hhead

theorem isRow_nil (t : Text) : IsRow [] t (List.replicate (t.length + 1) 0) := by
  induction t with
  | nil => exact .cons (isGreatest_nil_left _) .nil
  | cons b t ih => exact .cons (isGreatest_nil_left _) ih

theorem isRow_extendRow (h : IsRow s t row) : IsRow (a :: s) t (extendRow a t row) := by
  induction t generalizing row with
  | nil => exact .cons (isGreatest_nil_right _) .nil
  | cons b t ih =>
    cases h with
    | cons hbest hrow =>
      have hlonger := ih hrow
      refine .cons ?_ hlonger
      split
      · next hab =>
        subst hab
        exact isGreatest_cons_same (IsRow.head hrow)
      · next hab => exact isGreatest_cons_of_ne hab hbest hlonger.head

theorem isRow_commonRow (s t : Text) : IsRow s t (commonRow s t) := by
  induction s with
  | nil => exact isRow_nil t
  | cons a s ih => exact isRow_extendRow ih

/-- The table ends in the length of a longest common subsequence. -/
theorem isGreatest_commonLength (s t : Text) : IsGreatest (commonLengths s t) (commonLength s t) :=
  (isRow_commonRow s t).head

end ColorLiteral.Suggestion
