import ColorLiteral.Text.Basic

/-!
# Decoding unit by unit

Most encodings are sequences of units: a few bytes at a time stand for a character, whatever comes
before them.
-/

namespace ColorLiteral.Encoding

/-- Decodes bytes unit by unit. The function for a unit gives its text and the number of its bytes
behind the first one. -/
def decodeUnits (unit? : UInt8 → List UInt8 → Option (Text × Nat)) : List UInt8 → Option Text
  | [] => some []
  | byte :: rest => do
    let (text, more) ← unit? byte rest
    let after ← decodeUnits unit? (rest.drop more)
    some (text ++ after)
termination_by bytes => bytes.length
decreasing_by simp only [List.length_drop, List.length_cons]; omega

/-- A unit of a single byte. -/
def single (char : Char) : Text × Nat := ([char], 0)

/-- The character of a byte below 0x80 that stands for itself. -/
def ascii? (byte : UInt8) : Option Char :=
  if byte < 0x80 then some (Char.ofNat byte.toNat) else none

/-- Decodes units of one or two bytes, of which the first decides. -/
def decodePairs (one? : UInt8 → Option Char) (two? : Nat → Nat → Option Text) :
    List UInt8 → Option Text :=
  decodeUnits fun byte rest =>
    match one? byte, rest with
    | some char, _ => some (single char)
    | none, next :: _ => (two? byte.toNat next.toNat).map fun text => (text, 1)
    | none, [] => none

/-- Decodes bytes of which each stands for a character. -/
def decodeBytes (char? : UInt8 → Option Char) (bytes : List UInt8) : Option Text :=
  bytes.mapM char?

end ColorLiteral.Encoding
