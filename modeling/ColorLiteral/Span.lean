import ColorLiteral.Text.Basic

/-!
# Spans

A span is a pair of offsets into a source text, the second one past the end. Spans that come from
reading a source are proper; a span that a caller makes up may be any pair of integers.
-/

namespace ColorLiteral

/-- The half-open range of offsets from `start` to `stop`. -/
structure Span where
  start : Int
  stop : Int
  deriving DecidableEq, Repr

namespace Span

/-- The span between two natural offsets. -/
def ofOffsets (start stop : Nat) : Span := ⟨start, stop⟩

/-- The number of offsets from start to stop, negative for a reversed span. -/
def length (s : Span) : Int := s.stop - s.start

end Span

/-- The part of a text between two offsets. -/
def Text.slice (t : Text) (start stop : Nat) : Text := (t.drop start).take (stop - start)

end ColorLiteral
