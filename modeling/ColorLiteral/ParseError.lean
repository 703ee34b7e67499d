import ColorLiteral.Text.Basic

/-!
# Malformed invocations

Why a text is not an invocation, and where that shows.
-/

namespace ColorLiteral

/-- What is wrong with a text that should be an invocation. -/
inductive ParseFault
  /-- A string literal does not end. -/
  | unterminatedString
  /-- An interpolation inside a string literal does not end. -/
  | unterminatedInterpolation
  /-- A literal in triple quotes has text on its opening line. -/
  | textOnOpeningLine
  /-- The text does not start with `#`, a name and one more token. -/
  | notAnInvocation
  /-- Blanks separate `#` from the name. -/
  | nameApart
  /-- The name is not followed by `(`. -/
  | missingOpen
  /-- A closing bracket other than `)` has no partner. -/
  | unexpectedCloser (closer : Char)
  /-- A closing bracket meets an opening one of another kind. -/
  | mismatchedCloser (closer : Char)
  /-- The list of arguments ends behind a comma. -/
  | nothingAfterComma
  /-- A comma has no argument in front of it. -/
  | nothingBeforeComma
  /-- The list of arguments does not end. -/
  | missingClose
  /-- Something follows the invocation. -/
  | trailingText
  /-- A label has no expression. -/
  | nothingAfterLabel (label : Text)
  deriving DecidableEq, Repr

/-- The wording of a fault. -/
def ParseFault.description : ParseFault → Text
  | .unterminatedString => "Unterminated string literal"
  | .unterminatedInterpolation => "Unterminated string interpolation"
  | .textOnOpeningLine => "Multi-line string literal content must begin on a new line"
  | .notAnInvocation => "Expected a macro invocation like '#Color(...)'"
  | .nameApart => "Macro name must follow '#' directly"
  | .missingOpen => "Expected '(' after macro name"
  | .unexpectedCloser c => "Unexpected '" ++ [c] ++ "'"
  | .mismatchedCloser c => "Mismatched '" ++ [c] ++ "'"
  | .nothingAfterComma => "Expected expression after ','"
  | .nothingBeforeComma => "Expected expression before ','"
  | .missingClose => "Expected ')' to close the argument list"
  | .trailingText => "Unexpected text after invocation"
  | .nothingAfterLabel label => "Expected expression after '" ++ label ++ ":'"

/-- A fault and the offset at which it is reported. -/
structure ParseError where
  fault : ParseFault
  position : Nat
  deriving DecidableEq, Repr

/-- The message of an error, which names its offset. -/
def ParseError.message (e : ParseError) : Text :=
  e.fault.description ++ " (at offset " ++ Text.ofNat e.position ++ ")"

end ColorLiteral
