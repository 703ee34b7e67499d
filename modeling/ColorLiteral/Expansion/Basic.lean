import ColorLiteral.Diagnostic.Render
import ColorLiteral.Json.Printer
import ColorLiteral.ParseError
import ColorLiteral.Resolution

/-!
# Expansions

What an invocation becomes: an expression for a surface, together with the color, the diagnostic, or
the fault of a text that is no invocation. Without a color the expression is the fallback of the
surface. Also an expansion as text and as a JSON document.
-/

namespace ColorLiteral

/-- What became of an invocation. -/
inductive ExpansionOutcome
  | color (color : Rgba)
  | failure (diagnostic : Diagnostic)
  /-- The text is no invocation. -/
  | malformed (error : ParseError)
  deriving DecidableEq

/-- A text and what it became. -/
structure Expansion where
  source : Text
  expression : Text
  outcome : ExpansionOutcome
  deriving DecidableEq

/-- The outcome of a resolved invocation. -/
def Resolution.outcome : Resolution → ExpansionOutcome
  | color c => .color c
  | failure d => .failure d

namespace Expansion

/-- The color, or the fallback color. -/
def rgba (x : Expansion) : Rgba :=
  match x.outcome with
  | .color c => c
  | _ => .fallback

/-- The diagnostic of an invocation without a color. -/
def diagnostic? (x : Expansion) : Option Diagnostic :=
  match x.outcome with
  | .failure d => some d
  | _ => none

/-- The message about a text that is no invocation. -/
def error? (x : Expansion) : Option Text :=
  match x.outcome with
  | .malformed e => some e.message
  | _ => none

/-- Whether there is a color. -/
def isColor (x : Expansion) : Bool :=
  match x.outcome with
  | .color _ => true
  | _ => false

/-- An expansion as it is shown: the expression if there is a color, otherwise what is wrong, under
the source. -/
def render (x : Expansion) : Text :=
  match x.outcome with
  | .color _ => x.expression
  | .failure d => d.render x.source
  | .malformed e => x.source ++ "\nerror: " ++ e.message

/-! ### As a document -/

/-- An integer of a document. -/
def integer (n : Int) : Json Text := .number (Text.ofInt n)

/-- A diagnostic as a document. -/
def diagnosticDocument (d : Diagnostic) : Json Text :=
  .object
    [("id".toList, .string d.id), ("kind".toList, .string d.kind.name),
      ("message".toList, .string d.message), ("severity".toList, .string d.severity.name),
      ("anchor".toList, .array [integer d.anchor.start, integer d.anchor.stop]),
      ("suggestion".toList, match d.suggestion with
        | some hint => .string hint
        | none => .null)]

/-- An expansion as a document. -/
def document (x : Expansion) : Json Text :=
  .object
    ([("source".toList, .string x.source), ("expression".toList, .string x.expression),
      ("rgba".toList, .array (x.rgba.channels.map fun c => .number c.toText)),
      ("ok".toList, .bool x.isColor)] ++
    x.diagnostic?.toList.map (fun d => ("diagnostic".toList, diagnosticDocument d)) ++
    x.error?.toList.map fun message => ("error".toList, .string message))

end Expansion

end ColorLiteral
