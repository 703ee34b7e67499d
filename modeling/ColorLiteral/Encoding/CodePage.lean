import ColorLiteral.Encoding.Table
import ColorLiteral.Encoding.Unit

/-!
# Code pages

Encodings in which each byte stands for a character. A code page lists the bytes that stand for
another character than the one with their number.
-/

namespace ColorLiteral.Encoding

/-- What the bytes stand for that do not have the number of their character. -/
abbrev CodePage := Runs

/-- The character of a byte. -/
def CodePage.charOf? (page : CodePage) (byte : UInt8) : Option Char :=
  match Runs.get? page byte.toNat with
  | some char => if char = noChar then none else some char
  | none => some (Char.ofNat byte.toNat)

/-- Decodes bytes in a code page. -/
def CodePage.decode? (page : CodePage) : List UInt8 → Option Text := decodeBytes page.charOf?

end ColorLiteral.Encoding
