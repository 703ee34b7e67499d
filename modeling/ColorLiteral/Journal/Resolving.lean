import ColorLiteral.Journal.Event

/-!
# The events of resolving an invocation

What is noted while the arguments of an invocation are resolved: the search for a label like an
unknown one, then the reading of a hexadecimal color, then the result.
-/

namespace ColorLiteral

namespace Argument

/-- The events of looking up the label of the first argument. -/
def labelEvents : List Argument → List Event
  | ⟨some label, _⟩ :: _ =>
    if (Variant.ofLabel? label.text).isNone ∧ Suggestion.isSearched label.text Variant.labels then
      match Suggestion.match? label.text Variant.labels Suggestion.defaultCutoff with
      | some found => [.suggested label.text found]
      | none => [.notSuggested label.text]
    else []
  | _ => []

/-- The events of reading the literal of a hexadecimal color. -/
def hexEvents (literal : Expr) : List Event :=
  match Literal.plainString literal, literal with
  | .ok text, _ =>
    match Hex.decode text with
    | .ok color => [.decoded text color]
    | .error _ => []
  | .error _, .string text _ segments => [.severalSegments segments.length text]
  | .error _, _ => []

/-- The event of the result. -/
def resultEvent (variant : Except ColorError Variant) : Resolution → List Event
  | .color color => variant.toOption.toList.map fun v => .resolved v color
  | .failure diagnostic => [.notResolved diagnostic]

/-- The events of resolving an argument list. -/
def resolutionEvents (arguments : List Argument) (nameSpan : Span) : List Event :=
  let variant := variantOf arguments nameSpan
  let literalEvents := match variant, arguments with
    | .ok .hex, first :: _ => hexEvents first.expr
    | _, _ => []
  labelEvents arguments ++ literalEvents ++ resultEvent variant (resolve arguments nameSpan)

end Argument

/-- The events of parsing and resolving an invocation. -/
def Invocation.events (i : Invocation) : List Event :=
  .parsed i.name i.arguments.length :: Argument.resolutionEvents i.arguments i.nameSpan

end ColorLiteral
