import ColorLiteral.Encoding.Table.Ks
import ColorLiteral.Encoding.Unit
import Std.Data.HashSet

/-!
# Korean encodings

KS X 1001 in EUC, and two encodings that have all syllables: code page 949 lists the missing ones in
the order of their numbers, and Johab composes them of letters.
-/

namespace ColorLiteral.Encoding

namespace Ks

/-! ### Syllables -/

/-- The letters that may begin a syllable. -/
def initials : List Char := "ㄱㄲㄴㄷㄸㄹㅁㅂㅃㅅㅆㅇㅈㅉㅊㅋㅌㅍㅎ".toList

/-- The vowels of syllables. -/
def vowels : List Char := "ㅏㅐㅑㅒㅓㅔㅕㅖㅗㅘㅙㅚㅛㅜㅝㅞㅟㅠㅡㅢㅣ".toList

/-- The letters that may end a syllable. -/
def finals : List Char := "ㄱㄲㄳㄴㄵㄶㄷㄹㄺㄻㄼㄽㄾㄿㅀㅁㅂㅄㅅㅆㅇㅈㅊㅋㅌㅍㅎ".toList

/-- The syllable of letters. -/
def syllable? (initial vowel : Char) (final : Option Char) : Option Char := do
  let i ← initials.idxOf? initial
  let v ← vowels.idxOf? vowel
  let f ← match final with
    | none => some 0
    | some letter => (finals.idxOf? letter).map (· + 1)
  some (Char.ofNat (0xAC00 + (i * 21 + v) * 28 + f))

/-! ### EUC -/

/-- The byte pair for a missing letter, which also starts a syllable that is spelled out. -/
def filler : UInt8 × UInt8 := (0xA4, 0xD4)

/-- The letter of a pair of bytes. -/
def letter? (a b : UInt8) : Option Char :=
  if a = filler.1 then basic.char? 4 (b.toNat - 0xA0) else none

/-- The syllable that is spelled out behind a filler. -/
def spelled? : List UInt8 → Option Char
  | a :: b :: c :: d :: e :: f :: _ => do
    let initial ← letter? a b
    let vowel ← letter? c d
    let final ← if (e, f) = filler then some none else (letter? e f).map some
    syllable? initial vowel final
  | _ => none

/-- Decodes EUC with KS X 1001. -/
def decodeEuc? : List UInt8 → Option Text :=
  decodeUnits fun byte rest =>
    match rest with
    | b :: rest =>
      if byte < 0x80 then some (single (Char.ofNat byte.toNat))
      else if (byte, b) = filler then (spelled? rest).map fun char => ([char], 7)
      else (basic.char? (byte.toNat - 0xA0) (b.toNat - 0xA0)).map fun char => ([char], 1)
    | [] => (ascii? byte).map single

/-! ### Code page 949 -/

/-- The syllables that KS X 1001 does not have. -/
def missingSyllables : Array Char :=
  let known : Std.HashSet Nat := .ofList (basic.chars.map Char.toNat)
  let missing := (List.range' 0xAC00 11172).filter fun point => !known.contains point
  (missing.map Char.ofNat).toArray

/-- The place of a second byte among the letters and the bytes from 0x81 on. -/
def trail? (b : Nat) : Option Nat :=
  if 0x41 ≤ b && b ≤ 0x5A then some (b - 0x41)
  else if 0x61 ≤ b && b ≤ 0x7A then some (b - 0x47)
  else if 0x81 ≤ b && b ≤ 0xFE then some (b - 0x4D)
  else none

/-- The character of two bytes in code page 949. -/
def wideChar? (a b : Nat) : Option Char := do
  let place ← trail? b
  if 0x81 ≤ a && a ≤ 0xA0 then missingSyllables[(a - 0x81) * 178 + place]?
  else if 0xA1 ≤ a && a ≤ 0xC6 && place < 84 then
    missingSyllables[32 * 178 + (a - 0xA1) * 84 + place]?
  else basic.char? (a - 0xA0) (b - 0xA0)

/-- Decodes code page 949. -/
def decodeWide? : List UInt8 → Option Text :=
  decodePairs ascii? fun a b => (wideChar? a b).map ([·])

/-! ### Johab -/

/-- What five bits say about a part of a syllable. -/
inductive Part
  | absent
  | letter (char : Char)
  deriving DecidableEq, Repr

/-- The letters that begin a syllable, by their five bits. -/
def initialPart? (bits : Nat) : Option Part :=
  if bits = 1 then some .absent
  else if 2 ≤ bits then initials[bits - 2]?.map .letter
  else none

/-- The vowels by their five bits, of which every group of eight starts with two that are not
used. -/
def vowelPart? (bits : Nat) : Option Part :=
  if bits = 2 then some .absent
  else if 3 ≤ bits && 2 ≤ bits % 8 then vowels[bits - 3 - bits / 8 * 2]?.map .letter
  else none

/-- The letters that end a syllable, by their five bits, of which one is not used. -/
def finalPart? (bits : Nat) : Option Part :=
  if bits = 1 then some .absent
  else if 2 ≤ bits && bits ≤ 17 then finals[bits - 2]?.map .letter
  else if 19 ≤ bits then finals[bits - 3]?.map .letter
  else none

/-- The character of three parts: a syllable, a single letter, or the wide blank. -/
def compose? : Part → Part → Part → Option Char
  | .absent, .absent, .absent => some '\u3000'
  | .letter c, .absent, .absent => some c
  | .absent, .letter c, .absent => some c
  | .absent, .absent, .letter c => some c
  | .letter i, .letter v, .absent => syllable? i v none
  | .letter i, .letter v, .letter f => syllable? i v (some f)
  | _, _, _ => none

/-- The character of two bytes that hold three parts of five bits. -/
def composed? (a b : Nat) : Option Char := do
  compose? (← initialPart? (a / 4 % 32)) (← vowelPart? (a % 4 * 8 + b / 32)) (← finalPart? (b % 32))

/-- The character of two bytes for what is no syllable: two rows of KS X 1001 for a first byte. -/
def folded? (a b : Nat) : Option Char :=
  if a = 0xDF || 0xF9 < a || b < 0x31 || (0x80 ≤ b && b < 0x91) || b % 0x80 = 0x7F ||
      (a = 0xDA && 0xA1 ≤ b && b ≤ 0xD3) || a = 0xD8 then none
  else
    let row := if a < 0xE0 then 2 * (a - 0xD9) else 2 * a - 0x197
    let place := if b < 0x91 then b - 0x31 else b - 0x43
    basic.char? (row + place / 94 + 1) (place % 94 + 1)

/-- Decodes Johab. -/
def decodeJohab? : List UInt8 → Option Text :=
  decodePairs ascii? fun a b => (if a < 0xD8 then composed? a b else folded? a b).map ([·])

end Ks

end ColorLiteral.Encoding
