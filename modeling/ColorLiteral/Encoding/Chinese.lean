import ColorLiteral.Encoding.Table.Big5
import ColorLiteral.Encoding.Table.Gb
import ColorLiteral.Encoding.Unit
import Std.Data.HashSet

/-!
# Chinese encodings

GB 2312 and its extensions GBK and GB 18030, which take in the other ideographs in the order of
their numbers, and Big5 with two of its code pages.
-/

namespace ColorLiteral.Encoding

namespace Gb

/-! ### GB 2312 -/

/-- The character of two bytes in GB 2312. -/
def basicChar? (a b : Nat) : Option Char := basic.char? (a - 0xA0) (b - 0xA0)

/-- Decodes GB 2312. -/
def decodeBasic? : List UInt8 → Option Text :=
  decodePairs ascii? fun a b => (basicChar? a b).map ([·])

/-- Decodes HZ, which writes GB 2312 without its high bits between a tilde with an opening brace and
a tilde with a closing one. -/
def decodeHz? (inside : Bool) : List UInt8 → Option Text
  | [] => some []
  | 0x7E :: next :: rest =>
    match inside, next with
    | false, 0x7E => (decodeHz? false rest).map ('~' :: ·)
    | false, 0x7B => decodeHz? true rest
    | false, 0x0A => decodeHz? false rest
    | true, 0x7D => decodeHz? false rest
    | _, _ => none
  | byte :: rest =>
    if 0x80 ≤ byte || byte = 0x7E then none
    else if inside then
      match rest with
      | next :: rest => do
        let char ← basic.char? (byte.toNat - 0x20) (next.toNat - 0x20)
        (decodeHz? true rest).map (char :: ·)
      | [] => none
    else (decodeHz? false rest).map (Char.ofNat byte.toNat :: ·)

/-! ### GBK -/

/-- The place of a second byte of GBK among those from 0x40 on without 0x7F. -/
def trail? (b : Nat) : Option Nat :=
  if 0x40 ≤ b && b ≤ 0x7E then some (b - 0x40)
  else if 0x80 ≤ b && b ≤ 0xFE then some (b - 0x41)
  else none

/-- The ideographs that GBK has besides those of GB 2312, in the order of their cells. -/
def ideographs : Array Char :=
  let known : Std.HashSet Nat := .ofList (basic.chars.map Char.toNat)
  let others := (List.range' 0x4E00 0x51A6).filter fun point => !known.contains point
  (others.map Char.ofNat ++ compatibility.toList).toArray

/-- The character of two bytes in GBK. -/
def wideChar? (a b : Nat) : Option Char := do
  let place ← trail? b
  if 0x81 ≤ a && a ≤ 0xA0 then ideographs[(a - 0x81) * 190 + place]?
  else if 0xAA ≤ a && a ≤ 0xFE && place < 96 then ideographs[32 * 190 + (a - 0xAA) * 96 + place]?
  else (symbols.char? (a * 0x100 + b)).or (basicChar? a b)

/-- Decodes GBK. -/
def decodeWide? : List UInt8 → Option Text :=
  decodePairs ascii? fun a b => (wideChar? a b).map ([·])

/-! ### GB 18030 -/

/-- The character of two bytes in one of the areas for private use. -/
def privateChar? (a b : Nat) : Option Char := do
  let place ← trail? b
  if 0xA1 ≤ a && a ≤ 0xA7 && place < 96 then
    some (Char.ofNat (0xE4C6 + (a - 0xA1) * 96 + place))
  else if 0xAA ≤ a && a ≤ 0xAF && 96 ≤ place then
    some (Char.ofNat (0xE000 + (a - 0xAA) * 94 + (place - 96)))
  else if 0xF8 ≤ a && a ≤ 0xFE && 96 ≤ place then
    some (Char.ofNat (0xE234 + (a - 0xF8) * 94 + (place - 96)))
  else none

/-- The number of a code among the codes of some ranges. -/
def gapIndex? (code : Nat) : List (Nat × Nat) → Option Nat
  | [] => none
  | (first, last) :: ranges =>
    if first ≤ code && code ≤ last then some (code - first)
    else (gapIndex? code ranges).map (· + (last - first + 1))

/-- The character of two bytes that GBK leaves free: one of its own, or one for private use. -/
def gapChar? (a b : Nat) : Option Char :=
  let code := a * 0x100 + b
  (filled.char? code).or ((gapIndex? code gaps).map fun n => Char.ofNat (0xE766 + n))

/-- The character of two bytes in GB 18030. -/
def fullChar? (a b : Nat) : Option Char :=
  (wideChar? a b).or ((privateChar? a b).or (gapChar? a b))

/-- The characters up to 0xFFFF that take four bytes in GB 18030, in the order of their codes. -/
def longChars : Array Char :=
  let firsts := List.range' 0x81 126
  let seconds := List.range' 0x40 191
  let short : Std.HashSet Nat :=
    .ofList (firsts.flatMap fun a => seconds.filterMap fun b => (fullChar? a b).map Char.toNat)
  let points := List.range' 0x80 0xD780 ++ List.range' 0xE000 0x2000
  ((points.filter fun point => !short.contains point).map Char.ofNat).toArray

/-- The character of four bytes in GB 18030. -/
def longChar? (a b c d : Nat) : Option Char :=
  if 0x81 ≤ a && a ≤ 0xFE && 0x30 ≤ b && b ≤ 0x39 && 0x81 ≤ c && c ≤ 0xFE && 0x30 ≤ d &&
      d ≤ 0x39 then
    let place := (((a - 0x81) * 10 + (b - 0x30)) * 126 + (c - 0x81)) * 10 + (d - 0x30)
    if a ≤ 0x84 then longChars[place]?
    else if 0x90 ≤ a && place - 189000 < 0x100000 then
      some (Char.ofNat (0x10000 + (place - 189000)))
    else none
  else none

/-- Decodes GB 18030. -/
def decodeFull? : List UInt8 → Option Text :=
  decodeUnits fun byte rest =>
    match rest with
    | b :: rest =>
      if byte < 0x80 then some (single (Char.ofNat byte.toNat))
      else if 0x30 ≤ b && b ≤ 0x39 then
        match rest with
        | c :: d :: _ =>
          (longChar? byte.toNat b.toNat c.toNat d.toNat).map fun char => ([char], 3)
        | _ => none
      else (fullChar? byte.toNat b.toNat).map fun char => ([char], 1)
    | [] => (ascii? byte).map single

end Gb

/-! ### Big5 -/

namespace Big5

/-- The character of two bytes in a table of rows. -/
def char? (rows : List (Nat × String)) (a b : Nat) : Option Char := do
  let chars ← rows.lookup a
  let place ←
    if 0x40 ≤ b && b ≤ 0x7E then some (b - 0x40)
    else if 0xA1 ≤ b && b ≤ 0xFE then some (b - 0x62)
    else none
  chars.toList[place]?.filter (· ≠ noChar)

/-- Decodes Big5. -/
def decode? : List UInt8 → Option Text :=
  decodePairs ascii? fun a b => (char? basic a b).map ([·])

/-- Decodes code page 950. -/
def decodeWindows? : List UInt8 → Option Text :=
  decodePairs ascii? fun a b =>
    ((windows.char? (a * 0x100 + b)).or (char? basic a b)).map ([·])

/-- The text of two bytes in Big5 with the Hong Kong supplement, which has three rows of its own
among those of Big5. -/
def hongKongText? (a b : Nat) : Option Text :=
  let code := a * 0x100 + b
  match hongKongPairs.lookup code with
  | some text => some text.toList
  | none =>
    let kept := if 0xC6A1 ≤ code && code ≤ 0xC8FE then none else char? basic a b
    ((char? hongKong a b).or kept).map ([·])

/-- Decodes Big5 with the Hong Kong supplement. -/
def decodeHongKong? : List UInt8 → Option Text := decodePairs ascii? hongKongText?

end Big5

end ColorLiteral.Encoding
