import ColorLiteral.Binary64.HexText
import ColorLiteral.Diagnostic.Basic
import ColorLiteral.Expr
import ColorLiteral.Text.Blank

/-!
# Literals as arguments

Reading of an argument expression as a byte channel, as a signed number, as an alpha channel, or as
the raw text of a string literal. Underscores in numbers are ignored. Every error points at the
whole expression.
-/

namespace ColorLiteral.Literal

/-! ### Texts of numbers -/

/-- The text of a number without underscores and without blanks at the ends. -/
def digitText (t : Text) : Text := Text.trim (t.filter (· ≠ '_'))

/-- The largest integer that a channel may be written as. -/
def integerLimit : Nat := Nat.pow 2 63 - 1

/-- Reads an integer in decimal notation; integers beyond the limit are not read. -/
def readInteger? (t : Text) : Option Nat :=
  let digits := digitText t
  if digits.isEmpty || !digits.all Char.isDigit then none
  else
    let significant := digits.dropWhile (· == '0')
    if significant.length > (Text.ofNat integerLimit).length then none
    else
      let value := Text.valueInBase 10 (significant.filterMap Text.asciiDigitValue?)
      if value ≤ integerLimit then some value else none

/-- Reads a number in decimal notation, or in hexadecimal notation behind `0x`. -/
def readNumber? (t : Text) : Option Binary64 :=
  match digitText t with
  | '0' :: 'x' :: digits | '0' :: 'X' :: digits => Binary64.ofHexDigits? digits
  | cleaned => Binary64.ofText? cleaned

/-! ### Channels -/

/-- The integer that an expression spells: a literal, or a minus sign on one. -/
def integer? : Expr → Option Int
  | .integer t _ => (readInteger? t).map Int.ofNat
  | .prefixed _ _ ['-'] (.integer t _) => (readInteger? t).map fun n : Nat => -(n : Int)
  | _ => none

/-- The description of the range of a channel. -/
def channelRange (v : Variant) : Text := v.componentNoun ++ " must be between 0 and 255"

/-- Reads an expression as a byte channel. -/
def channelByte (v : Variant) (e : Expr) : Except ColorError Nat :=
  match integer? e with
  | none => .error (.located e.span (.invalidNumericLiteral v.signature))
  | some value =>
    if 0 ≤ value ∧ value ≤ 255 then .ok value.toNat
    else .error (.located e.span (.valueOutOfRange (channelRange v) (.ofInt value) .channel))

/-- Reads expressions as byte channels, up to the first one that is none. -/
def channelBytes (v : Variant) (es : List Expr) : Except ColorError (List Nat) :=
  es.mapM (channelByte v)

/-! ### Signed numbers and alpha -/

/-- The number that an expression spells: a literal, or a minus sign on one. -/
def number? : Expr → Option Binary64
  | .integer t _ | .float t _ => readNumber? t
  | .prefixed _ _ ['-'] (.integer t _) | .prefixed _ _ ['-'] (.float t _) =>
    (readNumber? t).map (- ·)
  | _ => none

/-- Reads an expression as a signed number. -/
def signedNumber (v : Variant) (e : Expr) : Except ColorError Binary64 :=
  match number? e with
  | none => .error (.located e.span (.invalidNumericLiteral v.signature))
  | some value => .ok value

/-- Reads an expression as an alpha channel. -/
def alphaValue (v : Variant) (e : Expr) : Except ColorError Binary64 := do
  let value ← signedNumber v e
  if 0 ≤ value ∧ value ≤ 1 then .ok value
  else .error (.located e.span (.valueOutOfRange "Alpha must be between 0 and 1" value .alpha))

/-! ### Strings -/

/-- Reads an expression as a string literal of one piece without interpolation. -/
def plainString (e : Expr) : Except ColorError Text :=
  match e with
  | .string _ span [piece] =>
    if piece.isInterpolation then .error (.located span .hexInterpolatedString) else .ok piece.text
  | .string _ span _ => .error (.located span .hexInterpolatedString)
  | e => .error (.located e.span .hexNonStringLiteral)

end ColorLiteral.Literal
