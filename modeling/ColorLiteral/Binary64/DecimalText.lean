import ColorLiteral.Binary64.Basic
import ColorLiteral.Text.Blank
import ColorLiteral.Text.Digit

/-!
# Numbers in decimal notation

Reading of a decimal text as the nearest binary64 number: an optional sign, then digits with an
optional point and an optional power of ten, or a name of infinity or NaN. Blanks around the text
are ignored and digits of every script count.
-/

namespace ColorLiteral

/-- The decimal number `digits × 10 ^ exponent`, the digits most significant first. -/
structure Decimal where
  digits : List Nat
  exponent : Int
  deriving DecidableEq

namespace Decimal

/-- The number nearest to a decimal. Far outside the range of binary64 the power of ten alone
decides between zero and infinity. -/
def toBinary64 (negative : Bool) (d : Decimal) : Binary64 :=
  let significant := d.digits.dropWhile (· == 0)
  let magnitude := significant.length + d.exponent
  if significant.isEmpty then .zero negative
  else if magnitude > 310 then .infinite negative
  else if magnitude < -330 then .zero negative
  else
    let value := Text.valueInBase 10 significant * unitsPerOne
    match d.exponent with
    | .ofNat e => .round negative (value * Nat.pow 10 e) 1
    | .negSucc e => .round negative value (Nat.pow 10 (e + 1))

/-- The values of the digits at the start of a text. -/
def leadingDigits (t : Text) : List Nat :=
  (t.takeWhile Text.isDecimalDigit).filterMap Text.digitValue?

/-- What follows the digits at the start of a text. -/
def afterDigits (t : Text) : Text := t.dropWhile Text.isDecimalDigit

/-- Reads digits that fill a text, at least one. -/
def readWhole? (t : Text) : Option Nat :=
  if t.isEmpty || !(afterDigits t).isEmpty then none
  else some (Text.valueInBase 10 (leadingDigits t))

/-- Reads an exponent: digits behind an optional sign. -/
def readExponent? : Text → Option Int
  | '+' :: t => (readWhole? t).map Int.ofNat
  | '-' :: t => (readWhole? t).map fun n => -(n : Int)
  | t => (readWhole? t).map Int.ofNat

/-- Reads the power of ten that may end a number. -/
def readPower? : Text → Option Int
  | [] => some 0
  | c :: t => if c = 'e' || c = 'E' then readExponent? t else none

/-- Reads a decimal without sign; one of the two sides of the point may be empty. -/
def read? (t : Text) : Option Decimal :=
  let whole := leadingDigits t
  let (fraction, rest) :=
    match afterDigits t with
    | '.' :: r => (leadingDigits r, afterDigits r)
    | r => ([], r)
  if whole.isEmpty && fraction.isEmpty then none
  else (readPower? rest).map fun power => ⟨whole ++ fraction, power - fraction.length⟩

end Decimal

namespace Binary64

/-- An ASCII capital letter as its small letter. -/
def smallLetter (c : Char) : Char := if c.isUpper then Char.ofNat (c.toNat + 32) else c

/-- Reads a number without sign. -/
def ofUnsignedText? (negative : Bool) (t : Text) : Option Binary64 :=
  let name := t.map smallLetter
  if name = "inf".toList ∨ name = "infinity".toList then some (.infinite negative)
  else if name = "nan".toList then some .nan
  else (Decimal.read? t).map (Decimal.toBinary64 negative)

/-- Reads a number in decimal notation. -/
def ofText? (t : Text) : Option Binary64 :=
  match Text.trim t with
  | '+' :: r => ofUnsignedText? false r
  | '-' :: r => ofUnsignedText? true r
  | r => ofUnsignedText? false r

end Binary64

end ColorLiteral
