import ColorLiteral.Span

/-!
# Tokens

The tokens of an invocation. A token carries its characters and the offset of the first one, so the
characters between two tokens are never part of either.
-/

namespace ColorLiteral

/-- A piece of a string literal: raw text, or an interpolation with its backslash and brackets. -/
structure Segment where
  text : Text
  isInterpolation : Bool
  deriving DecidableEq, Repr

namespace Segment

/-- A piece of raw text. -/
def plain (text : Text) : Segment := ⟨text, false⟩

/-- An interpolation. -/
def interpolation (text : Text) : Segment := ⟨text, true⟩

end Segment

/-- The kinds of tokens. -/
inductive TokenKind
  | integer
  | float
  | string (segments : List Segment)
  | identifier
  | operator
  | punctuation (char : Char)
  deriving DecidableEq, Repr

/-- A token of a source text. -/
structure Token where
  kind : TokenKind
  text : Text
  start : Nat
  deriving DecidableEq, Repr

namespace Token

/-- The offset behind the last character. -/
def stop (t : Token) : Nat := t.start + t.text.length

/-- The span of a token. -/
def span (t : Token) : Span := .ofOffsets t.start t.stop

end Token

end ColorLiteral
