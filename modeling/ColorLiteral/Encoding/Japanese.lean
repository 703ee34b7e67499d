import ColorLiteral.Encoding.Table.Jis
import ColorLiteral.Encoding.Unit

/-!
# Japanese encodings

The character sets JIS X 0201, 0208, 0212 and 0213 by row and cell, and the encodings that write rows
and cells as two bytes: Shift JIS, where the rows are folded in halves, and EUC, where they are
not.
-/

namespace ColorLiteral.Encoding

namespace Jis

/-! ### Character sets -/

/-- The runs of cells that JIS X 0208 has in the rows that it does not fill: row, first and last
cell. -/
def partialRows : List (Nat × Nat × Nat) :=
  [(2, 1, 14), (2, 26, 33), (2, 42, 48), (2, 60, 74), (2, 82, 89), (2, 94, 94), (3, 16, 25),
   (3, 33, 58), (3, 65, 90), (4, 1, 83), (5, 1, 86), (6, 1, 24), (6, 33, 56), (7, 1, 33),
   (7, 49, 81), (8, 1, 32), (47, 1, 51), (84, 1, 6)]

/-- Whether JIS X 0208 has a cell. -/
def isClassic (row cell : Nat) : Bool :=
  row = 1 || (16 ≤ row && row ≤ 83 && row ≠ 47) ||
    partialRows.any fun (r, first, last) => r = row && first ≤ cell && cell ≤ last

/-- The characters of JIS X 0208. -/
def classic? (row cell : Nat) : Option Char :=
  if isClassic row cell then plane1.char? row cell else none

/-- The two editions of JIS X 0213. -/
inductive Edition
  | first
  | second
  deriving DecidableEq, Repr

/-- The cells that are new in the second edition. -/
def newCells : List (Nat × Nat) :=
  [(14, 1), (15, 94), (47, 52), (47, 94), (84, 7), (94, 90), (94, 91), (94, 92), (94, 93), (94, 94)]

/-- The text of a cell in the first plane of JIS X 0213. -/
def plane1Text? (edition : Edition) (row cell : Nat) : Option Text :=
  if edition = .first && newCells.contains (row, cell) then none
  else match pairs.lookup (row, cell) with
    | some text => some text.toList
    | none => (plane1.char? row cell).map ([·])

/-- The text of a cell in the first plane of JIS X 0213 where the tilde of ASCII takes the place of
the wide one. -/
def tildeText? (edition : Edition) (row cell : Nat) : Option Text :=
  if row = 2 && cell = 18 then some ['~'] else plane1Text? edition row cell

/-- The character of a cell in the second plane of JIS X 0213. The first edition has another form of
one of them. -/
def plane2Char? (edition : Edition) (row cell : Nat) : Option Char :=
  if edition = .first && row = 93 && cell = 27 then some '\u9b1d' else plane2.char? row cell

/-- The half-width katakana of JIS X 0201. -/
def kana? (byte : Nat) : Option Char :=
  if 0xA1 ≤ byte && byte ≤ 0xDF then some (Char.ofNat (byte + 0xFEC0)) else none

/-- The Latin letters of JIS X 0201, which has other characters for backslash and tilde. -/
def latin? (byte : UInt8) : Option Char :=
  if byte = 0x5C then some '¥' else if byte = 0x7E then some '‾' else ascii? byte

end Jis

/-! ### Shift JIS -/

namespace ShiftJis

/-- The row and cell of two bytes: a first byte for two rows, of which the second byte tells the
half. -/
def position? (a b : Nat) : Option (Nat × Nat) :=
  if ((0x81 ≤ a && a ≤ 0x9F) || (0xE0 ≤ a && a ≤ 0xFC)) && 0x40 ≤ b && b ≤ 0xFC && b ≠ 0x7F then
    let half := if a < 0xA0 then a - 0x81 else a - 0xC1
    let place := if b < 0x7F then b - 0x40 else b - 0x41
    some (half * 2 + 1 + place / 94, place % 94 + 1)
  else none

/-- Decodes Shift JIS. -/
def decode? : List UInt8 → Option Text :=
  decodePairs (fun byte => (ascii? byte).or (Jis.kana? byte.toNat)) fun a b => do
    let (row, cell) ← position? a b
    (Jis.classic? row cell).map ([·])

/-- The single bytes of code page 932. -/
def vendorByte? (byte : UInt8) : Option Char :=
  if byte = 0x80 then some '\x80'
  else if byte = 0xA0 then some '\uf8f0'
  else if 0xFD ≤ byte then some (Char.ofNat (byte.toNat - 0xFD + 0xF8F1))
  else (ascii? byte).or (Jis.kana? byte.toNat)

/-- The character of a cell in code page 932. The rows behind the last one of JIS X 0208 are for
private use. -/
def vendorChar? (row cell : Nat) : Option Char :=
  if 95 ≤ row && row ≤ 114 then some (Char.ofNat (0xE000 + (row - 95) * 94 + (cell - 1)))
  else (Jis.vendor.char? (row * 0x100 + cell)).or (Jis.classic? row cell)

/-- Decodes code page 932. -/
def decodeVendor? : List UInt8 → Option Text :=
  decodePairs vendorByte? fun a b => do
    let (row, cell) ← position? a b
    (vendorChar? row cell).map ([·])

/-- The rows of the second plane of JIS X 0213 in the order in which they follow the first plane. -/
def lateRows : List Nat :=
  [1, 8, 3, 4, 5, 12, 13, 14, 15] ++ List.range' 78 17

/-- The text of a cell of JIS X 0213, where the second plane stands behind the first one. Backslash
and tilde have cells, since the single bytes for them stand for other characters. -/
def wideText? (edition : Jis.Edition) (row cell : Nat) : Option Text :=
  if row = 1 && cell = 32 then some ['\\']
  else if row ≤ 94 then Jis.tildeText? edition row cell
  else do
    let late ← lateRows[row - 95]?
    (Jis.plane2Char? edition late cell).map ([·])

/-- Decodes Shift JIS with the characters of JIS X 0213. -/
def decodeWide? (edition : Jis.Edition) : List UInt8 → Option Text :=
  decodePairs (fun byte => (Jis.latin? byte).or (Jis.kana? byte.toNat)) fun a b => do
    let (row, cell) ← position? a b
    wideText? edition row cell

end ShiftJis

/-! ### EUC -/

namespace Euc

/-- Decodes EUC with one character set in pairs of bytes, and another one in pairs behind a
prefix. -/
def decodeJapanese? (main? : Nat → Nat → Option Text) (other? : Nat → Nat → Option Char) :
    List UInt8 → Option Text :=
  decodeUnits fun byte rest =>
    if byte < 0x80 then some (single (Char.ofNat byte.toNat))
    else match byte, rest with
      | 0x8E, b :: _ => (Jis.kana? b.toNat).map fun c => ([c], 1)
      | 0x8F, b :: c :: _ =>
        (other? (b.toNat - 0xA0) (c.toNat - 0xA0)).map fun char => ([char], 2)
      | _, b :: _ => (main? (byte.toNat - 0xA0) (b.toNat - 0xA0)).map fun text => (text, 1)
      | _, [] => none

/-- Decodes EUC with JIS X 0208 and 0212. -/
def decodeJp? : List UInt8 → Option Text :=
  decodeJapanese? (fun row cell => (Jis.classic? row cell).map ([·])) Jis.supplement.char?

/-- Decodes EUC with JIS X 0213, and with JIS X 0212 where the second plane has no character. -/
def decodeJis? (edition : Jis.Edition) : List UInt8 → Option Text :=
  decodeJapanese? (Jis.plane1Text? edition) fun row cell =>
    (Jis.plane2Char? edition row cell).or (Jis.supplement.char? row cell)

end Euc

end ColorLiteral.Encoding
