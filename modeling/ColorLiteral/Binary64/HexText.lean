import ColorLiteral.Binary64.Basic
import ColorLiteral.Text.Digit

/-!
# Numbers in hexadecimal notation

Reading of a text such as `0x1.8p-3`: hexadecimal digits with an optional point and an optional
power of two. What rounds beyond the largest finite number is refused.
-/

namespace ColorLiteral

/-- The value of a hexadecimal digit, in ASCII and of either case. -/
def nibble? (c : Char) : Option Nat :=
  if '0' ≤ c && c ≤ '9' then some (c.toNat - '0'.toNat)
  else if 'a' ≤ c && c ≤ 'f' then some (c.toNat - 'a'.toNat + 10)
  else if 'A' ≤ c && c ≤ 'F' then some (c.toNat - 'A'.toNat + 10)
  else none

/-- Whether a character is a hexadecimal digit. -/
def isHexDigit (c : Char) : Bool := (nibble? c).isSome

namespace Binary64

/-- The number nearest to `significand × 2 ^ exponent`. Far outside the range of binary64 the
power of two alone decides between zero and infinity. -/
def ofScaled (significand : Nat) (exponent : Int) : Binary64 :=
  let magnitude := significand.log2 + exponent
  if significand = 0 ∨ magnitude < -1200 then zero false
  else if magnitude > 1100 then infinite false
  else match exponent + 1074 with
    | .ofNat e => round false (significand * Nat.pow 2 e) 1
    | .negSucc e => round false significand (Nat.pow 2 (e + 1))

/-- Reads ASCII digits that fill a text, at least one. -/
def readAsciiWhole? (t : Text) : Option Nat :=
  if t.isEmpty then none else (t.mapM Text.asciiDigitValue?).map (Text.valueInBase 10)

/-- Reads the power of two that may end a number. -/
def readBinaryPower? : Text → Option Int
  | [] => some 0
  | c :: t =>
    if c = 'p' || c = 'P' then
      match t with
      | '+' :: r => (readAsciiWhole? r).map Int.ofNat
      | '-' :: r => (readAsciiWhole? r).map fun n => -(n : Int)
      | r => (readAsciiWhole? r).map Int.ofNat
    else none

/-- Reads what stands behind `0x`: digits, of which one side of the point may be empty, and a
power of two. -/
def ofHexDigits? (t : Text) : Option Binary64 :=
  let whole := (t.takeWhile isHexDigit).filterMap nibble?
  let (fraction, rest) :=
    match t.dropWhile isHexDigit with
    | '.' :: r => ((r.takeWhile isHexDigit).filterMap nibble?, r.dropWhile isHexDigit)
    | r => ([], r)
  if whole.isEmpty && fraction.isEmpty then none
  else match readBinaryPower? rest with
    | none => none
    | some power =>
      match ofScaled (Text.valueInBase 16 (whole ++ fraction)) (power - 4 * fraction.length) with
      | .infinite _ => none
      | x => some x

end Binary64

end ColorLiteral
