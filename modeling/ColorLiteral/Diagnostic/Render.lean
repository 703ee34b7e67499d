import ColorLiteral.Diagnostic.Basic

/-!
# Diagnostics as text

A diagnostic is shown under the line of the source that it points at: a rule under the marked
characters, then the message and perhaps a note, both indented to the first marked character.
-/

namespace ColorLiteral

/-- The part of the line of an offset that stands in front of the offset. -/
def Text.lineBefore (source : Text) (offset : Nat) : Text :=
  ((source.take offset).reverse.takeWhile (· ≠ '\n')).reverse

/-- The part of the line of an offset that starts at the offset. -/
def Text.lineAfter (source : Text) (offset : Nat) : Text :=
  (source.drop offset).takeWhile (· ≠ '\n')

/-- The sign in front of the message. -/
def Severity.icon : Severity → Text
  | error => "🛑"
  | warning => "⚠️"
  | note => "ℹ️"

namespace Diagnostic

/-- The offset of the first marked character, moved into the source. -/
def markStart (anchor : Span) (source : Text) : Nat := min anchor.start.toNat source.length

/-- The number of marked characters: at least one, and none beyond the line unless it is the only
one. -/
def markWidth (anchor : Span) (room : Nat) : Nat := max 1 (min anchor.length.toNat room)

/-- The lines that show a diagnostic under its source. -/
def renderLines (d : Diagnostic) (source : Text) : List Text :=
  let start := markStart d.anchor source
  let before := source.lineBefore start
  let after := source.lineAfter start
  let pad : Text := List.replicate before.length ' '
  let width := markWidth d.anchor after.length
  let note := match d.suggestion with
    | none | some [] => []
    | some hint => [pad ++ "   note: " ++ hint]
  [before ++ after,
    pad ++ '┬' :: List.replicate (width - 1) '─',
    pad ++ "╰─ " ++ d.severity.icon ++ " " ++ d.message] ++ note

/-- A diagnostic under its source. -/
def render (d : Diagnostic) (source : Text) : Text :=
  Text.joinWith ['\n'] (d.renderLines source)

end Diagnostic

end ColorLiteral
