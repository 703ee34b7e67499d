import ColorLiteral.Text.Case

/-!
# The ways to write a color

The first label of an invocation says how its arguments are read. Labels count in any letter case.
-/

namespace ColorLiteral

/-- The name of the invocation. -/
def invocationName : Text := "Color".toList

/-- A way to write a color. -/
inductive Variant
  | hex
  | rgb
  | rgba
  | hsl
  | hsla
  | hsb
  | hsba
  deriving DecidableEq, Repr

namespace Variant

/-- All variants, in the order in which messages list them. -/
def all : List Variant := [hex, rgb, rgba, hsl, hsla, hsb, hsba]

/-- The label of a variant. -/
def name : Variant → Text
  | hex => "hex"
  | rgb => "rgb"
  | rgba => "rgba"
  | hsl => "hsl"
  | hsla => "hsla"
  | hsb => "hsb"
  | hsba => "hsba"

/-- The number of arguments that a variant takes. -/
def arity : Variant → Nat
  | hex => 1
  | rgb | hsl | hsb => 3
  | rgba | hsla | hsba => 4

/-- Whether the last argument of a variant is the alpha channel. -/
def hasAlpha : Variant → Bool
  | rgba | hsla | hsba => true
  | _ => false

/-- What messages call the arguments of a variant. -/
def componentNoun : Variant → Text
  | hex => "Values"
  | rgb | rgba => "RGB components"
  | hsl | hsla => "HSL components"
  | hsb | hsba => "HSB components"

/-- The number of arguments in front of the alpha channel. -/
def baseChannels (v : Variant) : Nat := if v.hasAlpha then v.arity - 1 else v.arity

/-- How messages show a variant. -/
def signature (v : Variant) : Text := "#" ++ invocationName ++ "(" ++ v.name ++ ":)"

/-- The variant that a label names. -/
def ofLabel? (label : Text) : Option Variant := all.find? fun v => v.name == Text.lower label

/-- The labels of all variants. -/
def labels : List Text := all.map name

/-- The labels of all variants in one line. -/
def labelList : Text := Text.joinWith ", ".toList labels

end Variant

end ColorLiteral
