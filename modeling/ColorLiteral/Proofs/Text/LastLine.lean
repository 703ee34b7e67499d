import ColorLiteral.Text.Blank
import Mathlib.Data.List.DropRight

/-!
# The last line of a text

The part of a text behind its last line break, and the part up to it. Whether the last line is blank
can be told by going through the text once with a flag (`endsBlank_true`), also for a text that is
seen in two parts (`endsBlank_append`).
-/

namespace ColorLiteral.Text

/-! ### A flag for blanks -/

/-- Whether only blanks stand behind the last line break of a text. The flag says that of the place
in front of the text. -/
def endsBlank (blank : Bool) (t : Text) : Bool :=
  t.foldl (fun blank c => if c = '\n' then true else blank && isBlank c) blank

theorem endsBlank_cons (blank : Bool) (c : Char) (t : Text) :
    endsBlank blank (c :: t) =
      endsBlank (if c = '\n' then true else blank && isBlank c) t := rfl

theorem endsBlank_append (blank : Bool) (s t : Text) :
    endsBlank blank (s ++ t) = endsBlank (endsBlank blank s) t := List.foldl_append

theorem endsBlank_concat (blank : Bool) (t : Text) (c : Char) :
    endsBlank blank (t ++ [c]) =
      if c = '\n' then true else endsBlank blank t && isBlank c := by
  rw [endsBlank_append]
  rfl

/-- Only a line break makes up for a character that is not blank. -/
theorem mem_of_endsBlank_false {t : Text} (h : endsBlank false t = true) : '\n' ∈ t := by
  induction t with
  | nil => cases h
  | cons c t ih =>
    by_cases hc : c = '\n'
    · exact hc ▸ List.mem_cons_self
    · rw [endsBlank_cons, if_neg hc] at h
      exact List.mem_cons_of_mem c (ih h)

/-! ### The last line -/

/-- The part of a text behind its last line break. -/
def lastLine (t : Text) : Text := t.rtakeWhile (· ≠ '\n')

/-- A text up to its last line break. -/
def upToLastLine (t : Text) : Text := t.rdropWhile (· ≠ '\n')

theorem upToLastLine_concat (t : Text) (c : Char) :
    upToLastLine (t ++ [c]) = if c = '\n' then t ++ [c] else upToLastLine t := by
  rw [upToLastLine, List.rdropWhile_concat]
  by_cases hc : c = '\n' <;> simp [hc, upToLastLine]

/-- At the start of a line, the flag tells whether the last line is blank. -/
theorem endsBlank_true (t : Text) : endsBlank true t = (lastLine t).all isBlank := by
  induction t using List.reverseRecOn with
  | nil => rfl
  | append_singleton t c ih =>
    rw [endsBlank_concat, lastLine, List.rtakeWhile_concat]
    by_cases hc : c = '\n'
    · simp [hc]
    · simp [hc, ih, lastLine, Bool.and_comm]

theorem upToLastLine_append {t : Text} (ht : '\n' ∈ t) (s : Text) :
    upToLastLine (s ++ t) = s ++ upToLastLine t := by
  induction t using List.reverseRecOn with
  | nil => cases ht
  | append_singleton t c ih =>
    rw [← List.append_assoc, upToLastLine_concat, upToLastLine_concat]
    by_cases hc : c = '\n'
    · rw [if_pos hc, if_pos hc, List.append_assoc]
    · rw [if_neg hc, if_neg hc]
      exact ih (by simpa [Ne.symm hc] using ht)

theorem upToLastLine_cons_lineBreak (t : Text) :
    upToLastLine ('\n' :: t) = '\n' :: upToLastLine t := by
  induction t using List.reverseRecOn with
  | nil => rfl
  | append_singleton t c ih =>
    rw [← List.cons_append, upToLastLine_concat, upToLastLine_concat, ih]
    split <;> rfl

theorem upToLastLine_of_notMem {t : Text} (ht : '\n' ∉ t) : upToLastLine t = [] := by
  rw [upToLastLine, List.rdropWhile_eq_nil_iff]
  intro c hc
  simpa using ne_of_mem_of_not_mem hc ht

/-- The last line has no line break. -/
theorem count_upToLastLine (t : Text) : (upToLastLine t).count '\n' = t.count '\n' := by
  have hlast : (lastLine t).count '\n' = 0 :=
    List.count_eq_zero.2 fun hmem => by simpa using List.mem_rtakeWhile_imp hmem
  calc (upToLastLine t).count '\n'
      = (upToLastLine t).count '\n' + (lastLine t).count '\n' := by rw [hlast, Nat.add_zero]
    _ = (upToLastLine t ++ lastLine t).count '\n' := List.count_append.symm
    _ = t.count '\n' := congrArg _ List.rdropWhile_append_rtakeWhile

end ColorLiteral.Text
