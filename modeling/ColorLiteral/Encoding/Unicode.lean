import ColorLiteral.Text.Basic

/-!
# The encodings of Unicode

UTF-8, UTF-16 and UTF-32. Decoding is strict: no half of a pair, no longer form than needed, and a
text of unstated byte order has to start with its mark.
-/

namespace ColorLiteral.Encoding

/-! ### UTF-8 -/

/-- The character of a code point from a least one on. -/
def charFrom? (least point : Nat) : Option Char :=
  if least ≤ point ∧ point.isValidChar then some (Char.ofNat point) else none

/-- The six bits of a continuation byte. -/
def tailBits? (byte : UInt8) : Option Nat :=
  if 0x80 ≤ byte && byte < 0xC0 then some (byte.toNat - 0x80) else none

/-- Decodes UTF-8: every character in its shortest form, and no half of a pair. -/
def decodeUtf8 : List UInt8 → Option Text
  | [] => some []
  | a :: rest =>
    if a < 0x80 then (decodeUtf8 rest).map (Char.ofNat a.toNat :: ·)
    else if a < 0xE0 then
      match rest with
      | b :: rest => do
        let point := (a.toNat - 0xC0) * 0x40 + (← tailBits? b)
        let char ← charFrom? 0x80 point
        (decodeUtf8 rest).map (char :: ·)
      | [] => none
    else if a < 0xF0 then
      match rest with
      | b :: c :: rest => do
        let point := ((a.toNat - 0xE0) * 0x40 + (← tailBits? b)) * 0x40 + (← tailBits? c)
        let char ← charFrom? 0x800 point
        (decodeUtf8 rest).map (char :: ·)
      | _ => none
    else
      match rest with
      | b :: c :: d :: rest => do
        let point := (((a.toNat - 0xF0) * 0x40 + (← tailBits? b)) * 0x40 + (← tailBits? c)) * 0x40 +
          (← tailBits? d)
        let char ← charFrom? 0x10000 point
        (decodeUtf8 rest).map (char :: ·)
      | _ => none

/-! ### UTF-16 and UTF-32 -/

/-- The units of two bytes each, in a byte order. -/
def units16? (little : Bool) : List UInt8 → Option (List Nat)
  | [] => some []
  | [_] => none
  | a :: b :: rest =>
    let unit := if little then b.toNat * 0x100 + a.toNat else a.toNat * 0x100 + b.toNat
    (units16? little rest).map (unit :: ·)

/-- The text of units of UTF-16, in which halves stand in pairs only. -/
def textOfUnits16? : List Nat → Option Text
  | [] => some []
  | unit :: rest =>
    if 0xD800 ≤ unit && unit < 0xDC00 then
      match rest with
      | low :: rest =>
        if 0xDC00 ≤ low && low < 0xE000 then
          (textOfUnits16? rest).map
            (Char.ofNat (0x10000 + (unit - 0xD800) * 0x400 + (low - 0xDC00)) :: ·)
        else none
      | [] => none
    else do
      let char ← charFrom? 0 unit
      (textOfUnits16? rest).map (char :: ·)

/-- Decodes UTF-16 in a byte order. -/
def decodeUtf16 (little : Bool) (bytes : List UInt8) : Option Text := do
  textOfUnits16? (← units16? little bytes)

/-- Decodes UTF-32 in a byte order. -/
def decodeUtf32 (little : Bool) : List UInt8 → Option Text
  | [] => some []
  | a :: b :: c :: d :: rest => do
    let digits := if little then [d, c, b, a] else [a, b, c, d]
    let char ← charFrom? 0 (digits.foldl (fun n byte => n * 0x100 + byte.toNat) 0)
    (decodeUtf32 little rest).map (char :: ·)
  | _ => none

/-! ### Marks -/

/-- Decodes UTF-8 with an optional mark in front, which is dropped. A mark that is cut off is no
text. -/
def decodeMarkedUtf8 : List UInt8 → Option Text
  | 0xEF :: 0xBB :: 0xBF :: rest => decodeUtf8 rest
  | [0xEF] | [0xEF, 0xBB] => some []
  | bytes => decodeUtf8 bytes

/-- Decodes UTF-16 in the byte order that its mark states. -/
def decodeMarkedUtf16 : List UInt8 → Option Text
  | [] => some []
  | 0xFF :: 0xFE :: rest => decodeUtf16 true rest
  | 0xFE :: 0xFF :: rest => decodeUtf16 false rest
  | _ => none

/-- Decodes UTF-32 in the byte order that its mark states. -/
def decodeMarkedUtf32 : List UInt8 → Option Text
  | [] => some []
  | 0xFF :: 0xFE :: 0 :: 0 :: rest => decodeUtf32 true rest
  | 0 :: 0 :: 0xFE :: 0xFF :: rest => decodeUtf32 false rest
  | _ => none

end ColorLiteral.Encoding
