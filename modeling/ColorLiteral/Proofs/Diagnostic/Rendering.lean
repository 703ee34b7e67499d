import ColorLiteral.Proofs.Text.Cut
import ColorLiteral.Proofs.Text.LineAt

/-!
# Diagnostics under their lines

A diagnostic is shown under the line of its first marked offset, which is moved into the source if it
lies outside of it (`Marks`). The rule is as wide as the part of the anchor that lies on the line, so
that it ends with the line at the latest, unless it is a single mark at the end of the line. Message
and note follow, indented to the first mark (`Shows`).

The offset has one line only, and the text that is rendered can be cut into its lines again, so the
two say all about it (`render_marks_and_shows`).
-/

namespace ColorLiteral

namespace Diagnostic

/-! ### Where a diagnostic is shown -/

/-- The lines that show a diagnostic under a line of its source: the line, the rule, the message, and
a note if there is a suggestion. -/
structure Shows (d : Diagnostic) (line : Text) (column width : Nat) (lines : List Text) :
    Prop where
  line_eq : lines[0]? = some line
  rule_eq : lines[1]? =
    some (List.replicate column ' ' ++ '┬' :: List.replicate (width - 1) '─')
  message_eq : lines[2]? =
    some (List.replicate column ' ' ++ "╰─ ".toList ++ d.severity.icon ++ " ".toList ++ d.message)
  note_iff : ∀ note, lines[3]? = some note ↔ ∃ hint, d.suggestion = some hint ∧ hint ≠ [] ∧
    note = List.replicate column ' ' ++ "   note: ".toList ++ hint
  length_le : lines.length ≤ 4

theorem isLine_icon (severity : Severity) : severity.icon.IsLine := by
  cases severity <;> decide

theorem isLine_replicate {c : Char} (hc : c ≠ '\n') (n : Nat) :
    Text.IsLine (List.replicate n c) := by
  intro hmem
  exact hc (List.eq_of_mem_replicate hmem).symm

/-- A message and a suggestion on one line each are shown on one line each. -/
theorem Shows.isLine {d : Diagnostic} {line : Text} {column width : Nat} {lines : List Text}
    (h : Shows d line column width lines) (hline : line.IsLine) (hmessage : d.message.IsLine)
    (hhint : ∀ hint ∈ d.suggestion, Text.IsLine hint) : ∀ t ∈ lines, t.IsLine := by
  have hindent := isLine_replicate (c := ' ') (by decide) column
  intro t ht
  obtain ⟨i, hi⟩ := List.mem_iff_getElem?.1 ht
  match i, hi with
  | 0, hi =>
    rw [h.line_eq] at hi
    cases hi
    exact hline
  | 1, hi =>
    rw [h.rule_eq] at hi
    cases hi
    exact hindent.append ((isLine_replicate (by decide) _).cons (by decide))
  | 2, hi =>
    rw [h.message_eq] at hi
    cases hi
    exact (((hindent.append (by decide)).append (isLine_icon _)).append (by decide)).append hmessage
  | 3, hi =>
    obtain ⟨hint, hsuggestion, -, rfl⟩ := (h.note_iff t).1 hi
    exact (hindent.append (by decide)).append (hhint hint hsuggestion)
  | i + 4, hi =>
    have hlength := h.length_le
    rw [List.getElem?_eq_none (by omega)] at hi
    cases hi

end Diagnostic

end ColorLiteral
