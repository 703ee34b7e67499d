import ColorLiteral.Binary64.Shortest
import ColorLiteral.Color.Variant
import ColorLiteral.Span

/-!
# Diagnostics

Why the arguments of an invocation give no color. A fault is the cause; an error adds the place and
perhaps a hint; a diagnostic is an error whose place is known, as it is shown to the user.
-/

namespace ColorLiteral

/-- The kinds of diagnostics. -/
inductive DiagnosticKind
  | missingArgument
  | missingLabel
  | unknownLabel
  | unexpectedArgumentCount
  | hexNonStringLiteral
  | hexInterpolatedString
  | hexEmpty
  | hexUnsupportedLength
  | hexInvalidCharacter
  | invalidNumericLiteral
  | valueOutOfRange
  deriving DecidableEq, Repr

/-- The name of a kind. -/
def DiagnosticKind.name : DiagnosticKind → Text
  | missingArgument => "missing_argument"
  | missingLabel => "missing_label"
  | unknownLabel => "unknown_label"
  | unexpectedArgumentCount => "unexpected_argument_count"
  | hexNonStringLiteral => "hex_non_string_literal"
  | hexInterpolatedString => "hex_interpolated_string"
  | hexEmpty => "hex_empty"
  | hexUnsupportedLength => "hex_unsupported_length"
  | hexInvalidCharacter => "hex_invalid_character"
  | invalidNumericLiteral => "invalid_numeric_literal"
  | valueOutOfRange => "value_out_of_range"

/-- The rule that a number out of range breaks. -/
inductive RangeConstraint
  /-- A channel is an integer from 0 to 255. -/
  | channel
  /-- An alpha is a number from 0 to 1. -/
  | alpha
  deriving DecidableEq, Repr

/-- The name of a rule. -/
def RangeConstraint.name : RangeConstraint → Text
  | channel => "channel"
  | alpha => "alpha"

/-- Why arguments give no color. -/
inductive ColorFault
  | missingArgument
  | missingLabel
  | unknownLabel (label : Text)
  | unexpectedArgumentCount (variant : Text) (expected actual : Int)
  | hexNonStringLiteral
  | hexInterpolatedString
  | hexEmpty
  | hexUnsupportedLength (length : Int)
  | hexInvalidCharacter (character : Text)
  | invalidNumericLiteral (variant : Text)
  | valueOutOfRange (description : Text) (value : Binary64) (constraint : RangeConstraint)
  deriving DecidableEq

namespace ColorFault

/-- The kind of a fault. -/
def kind : ColorFault → DiagnosticKind
  | missingArgument => .missingArgument
  | missingLabel => .missingLabel
  | unknownLabel _ => .unknownLabel
  | unexpectedArgumentCount _ _ _ => .unexpectedArgumentCount
  | hexNonStringLiteral => .hexNonStringLiteral
  | hexInterpolatedString => .hexInterpolatedString
  | hexEmpty => .hexEmpty
  | hexUnsupportedLength _ => .hexUnsupportedLength
  | hexInvalidCharacter _ => .hexInvalidCharacter
  | invalidNumericLiteral _ => .invalidNumericLiteral
  | valueOutOfRange _ _ _ => .valueOutOfRange

/-- The wording of a fault. -/
def message : ColorFault → Text
  | missingArgument => "#" ++ invocationName ++ " expects at least one labeled argument."
  | missingLabel =>
    "Label the first argument to #" ++ invocationName ++ ". Supported labels: " ++
      Variant.labelList ++ "."
  | unknownLabel label =>
    "Unknown #" ++ invocationName ++ " label '" ++ label ++ "'. Supported labels: " ++
      Variant.labelList ++ "."
  | unexpectedArgumentCount variant expected actual =>
    variant ++ " expects " ++ Text.ofInt expected ++ " argument(s), but received " ++
      Text.ofInt actual ++ "."
  | hexNonStringLiteral => "Hex values must be specified as string literals."
  | hexInterpolatedString => "Hex strings cannot contain interpolation or multiple segments."
  | hexEmpty => "Provide at least one hexadecimal digit."
  | hexUnsupportedLength length =>
    "Hex literals must contain 3, 4, 6, or 8 digits, but found " ++ Text.ofInt length ++ "."
  | hexInvalidCharacter character =>
    "Character '" ++ character ++ "' is not valid in a hexadecimal color literal."
  | invalidNumericLiteral variant => "All " ++ variant ++ " arguments must be numeric literals."
  | valueOutOfRange description value _ => description ++ ", but found " ++ value.toText ++ "."

end ColorFault

/-- How grave a diagnostic is. -/
inductive Severity
  | error
  | warning
  | note
  deriving DecidableEq, Repr

namespace Severity

/-- The name of a severity. -/
def name : Severity → Text
  | error => "error"
  | warning => "warning"
  | note => "note"

/-- The severity with a name; an unknown name counts as an error. -/
def ofName (t : Text) : Severity :=
  if t = warning.name then warning else if t = note.name then note else error

end Severity

/-- What the user is told about one invocation. -/
structure Diagnostic where
  kind : DiagnosticKind
  message : Text
  anchor : Span
  suggestion : Option Text
  severity : Severity
  deriving DecidableEq, Repr

/-- The identifier of a diagnostic. -/
def Diagnostic.id (d : Diagnostic) : Text := "ColorMacros." ++ d.kind.name

/-- A fault with its place, where that is known, and a hint. -/
structure ColorError where
  fault : ColorFault
  anchor : Option Span
  suggestion : Option Text
  deriving DecidableEq

namespace ColorError

/-- A fault at a place. -/
def located (span : Span) (fault : ColorFault) : ColorError := ⟨fault, some span, none⟩

/-- The diagnostic of an error, at a default place if the error names none. -/
def toDiagnostic? (e : ColorError) (default : Option Span) : Option Diagnostic :=
  (e.anchor <|> default).map fun anchor =>
    ⟨e.fault.kind, e.fault.message, anchor, e.suggestion, .error⟩

end ColorError

end ColorLiteral
