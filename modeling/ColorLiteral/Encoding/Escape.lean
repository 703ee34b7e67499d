import ColorLiteral.Binary64.HexText
import ColorLiteral.Encoding.Unit

/-!
# Escapes

Two encodings in which bytes stand for the characters with their numbers, and a backslash starts an
escape for another character: one with the escapes of string literals, and one with the escapes by
number only. Escapes by the name of a character are refused.
-/

namespace ColorLiteral.Encoding.Escape

/-- The character with the number of a byte. -/
def charOf (byte : UInt8) : Char := Char.ofNat byte.toNat

/-- The character with a number, where half of a pair becomes the replacement character. -/
def charOfPoint? (point : Nat) : Option Char :=
  if point.isValidChar then some (Char.ofNat point)
  else if point < 0xE000 then some '\ufffd'
  else none

/-- The character of an escape with a number of hexadecimal digits, behind the letter that tells the
number, and the number of bytes behind the backslash. -/
def numbered? (size : Nat) (rest : List UInt8) : Option (Text × Nat) := do
  let digits ← ((rest.take size).map charOf).mapM nibble?
  if digits.length = size then
    let char ← charOfPoint? (digits.foldl (fun n digit => n * 16 + digit) 0)
    some ([char], size + 1)
  else none

/-- Whether a byte is an octal digit. -/
def isOctal (byte : UInt8) : Bool := 0x30 ≤ byte && byte ≤ 0x37

/-- The character that a letter behind a backslash stands for. -/
def control? : Char → Option Char
  | '\\' => some '\\'
  | '\'' => some '\''
  | '"' => some '"'
  | 'a' => some '\x07'
  | 'b' => some '\x08'
  | 'f' => some '\x0c'
  | 'n' => some '\n'
  | 'r' => some '\r'
  | 't' => some '\t'
  | 'v' => some '\x0b'
  | _ => none

/-- The unit of a byte in the encoding with the escapes of string literals. A backslash in front of
a line break vanishes with it, and one that starts no escape stays. -/
def literalUnit? (byte : UInt8) (rest : List UInt8) : Option (Text × Nat) :=
  if byte ≠ 0x5C then some (single (charOf byte))
  else match rest with
    | [] => none
    | next :: after =>
      match control? (charOf next) with
      | some char => some ([char], 1)
      | none =>
        if next = 0x0A then some ([], 1)
        else if isOctal next then
          let digits := (rest.take 3).takeWhile isOctal
          let point := digits.foldl (fun n digit => n * 8 + (digit.toNat - 0x30)) 0
          some ([Char.ofNat point], digits.length)
        else match charOf next with
          | 'x' => numbered? 2 after
          | 'u' => numbered? 4 after
          | 'U' => numbered? 8 after
          | 'N' => none
          | char => some (['\\', char], 1)

/-- The unit of a byte in the encoding with the escapes by number. A backslash behind another one
starts no escape. -/
def rawUnit? (byte : UInt8) (rest : List UInt8) : Option (Text × Nat) :=
  if byte ≠ 0x5C then some (single (charOf byte))
  else match rest with
    | [] => some (single '\\')
    | next :: after =>
      match charOf next with
      | 'u' => numbered? 4 after
      | 'U' => numbered? 8 after
      | char => some (['\\', char], 1)

/-- Decodes the encoding with the escapes of string literals. -/
def decodeLiteral? : List UInt8 → Option Text := decodeUnits literalUnit?

/-- Decodes the encoding with the escapes by number. -/
def decodeRaw? : List UInt8 → Option Text := decodeUnits rawUnit?

end ColorLiteral.Encoding.Escape
