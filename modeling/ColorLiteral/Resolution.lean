import ColorLiteral.Color.Hex
import ColorLiteral.Color.Space
import ColorLiteral.Invocation
import ColorLiteral.Literal
import ColorLiteral.Suggestion

/-!
# From arguments to a color

The first label selects how the arguments are read. The checks go from left to right: some argument,
a label, a known label, the number of arguments, then each argument in turn; the first that fails
gives the diagnostic.
-/

namespace ColorLiteral

/-- What resolving gives: a color, or the diagnostic that says why there is none. -/
inductive Resolution
  | color (color : Rgba)
  | failure (diagnostic : Diagnostic)
  deriving DecidableEq

namespace Resolution

/-- The resolved color, or the fallback color. -/
def rgba : Resolution → Rgba
  | color c => c
  | failure _ => .fallback

/-- The diagnostic of a failure. -/
def diagnostic? : Resolution → Option Diagnostic
  | color _ => none
  | failure d => some d

/-- Whether there is a color. -/
def isColor : Resolution → Bool
  | color _ => true
  | failure _ => false

end Resolution

namespace Argument

/-! ### The variant -/

/-- The hint for an unknown label. -/
def labelHint (label : Text) : Option Text :=
  (Suggestion.suggest? label Variant.labels Suggestion.defaultCutoff).map fun hint =>
    "did you mean '" ++ hint ++ "'?"

/-- The place of a wrong number of arguments: the second argument of a hexadecimal color, otherwise
the last one. -/
def countAnchor (v : Variant) (first : Argument) (rest : List Argument) : Span :=
  match v, rest with
  | .hex, second :: _ => second.expr.span
  | _, _ => ((first :: rest).getLast (by simp)).expr.span

/-- The variant that an argument list selects, if it has as many arguments as that takes. -/
def variantOf (arguments : List Argument) (nameSpan : Span) : Except ColorError Variant :=
  match arguments with
  | [] => .error (.located nameSpan .missingArgument)
  | first :: rest =>
    match first.label? with
    | none => .error (.located first.expr.span .missingLabel)
    | some label =>
      match Variant.ofLabel? label.text with
      | none => .error ⟨.unknownLabel label.text, some first.expr.span, labelHint label.text⟩
      | some v =>
        if arguments.length = v.arity then .ok v
        else .error (.located (countAnchor v first rest)
          (.unexpectedArgumentCount v.signature v.arity arguments.length))

/-! ### The color -/

/-- Puts an error at a place. -/
def anchored {α : Type} (span : Span) : Except ColorFault α → Except ColorError α
  | .ok a => .ok a
  | .error fault => .error (.located span fault)

/-- The alpha channel of a color, one if the variant has none. -/
def alphaOf (v : Variant) (alpha : List Expr) : Except ColorError Binary64 :=
  match alpha with
  | e :: _ => if v.hasAlpha then Literal.alphaValue v e else .ok 1
  | [] => .ok 1

/-- The channels of three numbers from 0 to 255 in the space of a variant. Outside red, green and
blue they are degrees and percentages. -/
def channelsOf (v : Variant) (a b c : Nat) : Binary64 × Binary64 × Binary64 :=
  match v with
  | .hsl | .hsla => ColorSpace.rgbOfHsl (.ofNat a) (.ofNat b) (.ofNat c)
  | .hsb | .hsba => ColorSpace.rgbOfHsb (.ofNat a) (.ofNat b) (.ofNat c)
  | _ => (Rgba.channelOfByte a, Rgba.channelOfByte b, Rgba.channelOfByte c)

/-- The color that the expressions spell in a variant that fits their number. -/
def colorOf (v : Variant) (exprs : List Expr) : Except ColorError Rgba :=
  match v, exprs with
  | .hex, literal :: _ => do
    let text ← Literal.plainString literal
    anchored literal.span (Hex.decode text)
  | _, first :: second :: third :: rest => do
    let a ← Literal.channelByte v first
    let b ← Literal.channelByte v second
    let c ← Literal.channelByte v third
    let alpha ← alphaOf v rest
    let (red, green, blue) := channelsOf v a b c
    .ok ⟨red, green, blue, alpha⟩
  | _, _ => .error ⟨.missingArgument, none, none⟩

/-- The color of an argument list, or what is wrong with it. -/
def colorOfList (arguments : List Argument) (nameSpan : Span) : Except ColorError Rgba := do
  let v ← variantOf arguments nameSpan
  colorOf v (arguments.map Argument.expr)

/-- Resolves an argument list. A fault without a place is reported at the name. -/
def resolve (arguments : List Argument) (nameSpan : Span) : Resolution :=
  match colorOfList arguments nameSpan with
  | .ok color => .color color
  | .error e =>
    .failure ⟨e.fault.kind, e.fault.message, e.anchor.getD nameSpan, e.suggestion, .error⟩

end Argument

/-- Resolves a parsed invocation. -/
def Invocation.resolve (i : Invocation) : Resolution := Argument.resolve i.arguments i.nameSpan

end ColorLiteral
