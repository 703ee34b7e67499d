import ColorLiteral.Binary64.HexText
import ColorLiteral.Color.Rgba
import ColorLiteral.Diagnostic.Basic

/-!
# Hexadecimal colors

Colors written with 3, 4, 6 or 8 hexadecimal digits, behind an optional `#` and an optional `0x`.
The short forms write each byte as one digit that counts twice, and alpha may be left out.
-/

namespace ColorLiteral.Hex

/-- A text without one leading `#`. -/
def dropHash : Text → Text
  | '#' :: t => t
  | t => t

/-- A text without one leading `0x`, in either case. -/
def dropBase : Text → Text
  | '0' :: 'x' :: t | '0' :: 'X' :: t => t
  | t => t

/-- The digits that a text should hold: without blanks at the ends, `#` and `0x`. -/
def normalize (t : Text) : Text := dropBase (dropHash (Text.trim t))

/-- The values of the digits of a text, or the first character that is none. -/
def nibbles : Text → Except ColorFault (List Nat)
  | [] => .ok []
  | c :: rest =>
    match nibble? c with
    | none => .error (.hexInvalidCharacter [c])
    | some value => (nibbles rest).map (value :: ·)

/-- The color that 3, 4, 6 or 8 digit values spell. -/
def colorOfNibbles? : List Nat → Option Rgba
  | [r, g, b] => some (.ofBytes (r * 17) (g * 17) (b * 17) 255)
  | [r, g, b, a] => some (.ofBytes (r * 17) (g * 17) (b * 17) (a * 17))
  | [r₁, r₀, g₁, g₀, b₁, b₀] =>
    some (.ofBytes (r₁ * 16 + r₀) (g₁ * 16 + g₀) (b₁ * 16 + b₀) 255)
  | [r₁, r₀, g₁, g₀, b₁, b₀, a₁, a₀] =>
    some (.ofBytes (r₁ * 16 + r₀) (g₁ * 16 + g₀) (b₁ * 16 + b₀) (a₁ * 16 + a₀))
  | _ => none

/-- The digit counts of a color. -/
def digitCounts : List Nat := [3, 4, 6, 8]

/-- Reads a hexadecimal color. The number of characters is checked before the characters. -/
def decode (t : Text) : Except ColorFault Rgba :=
  let digits := normalize t
  if digits.isEmpty then .error .hexEmpty
  else if !digitCounts.contains digits.length then
    .error (.hexUnsupportedLength digits.length)
  else
    match nibbles digits with
    | .error fault => .error fault
    | .ok values =>
      match colorOfNibbles? values with
      | some color => .ok color
      | none => .error (.hexUnsupportedLength values.length)

end ColorLiteral.Hex
