import ColorLiteral.Encoding.CodePage
import ColorLiteral.Encoding.Chinese
import ColorLiteral.Encoding.Japanese
import ColorLiteral.Encoding.Korean
import ColorLiteral.Encoding.Table.CodePage

/-!
# ISO 2022

Encodings of seven bits in which escape sequences select the character set of the bytes that follow.
A selected set stands in one of three places: the first is in use, the second is in use between a
shift out and a shift in, and the third is used for one character behind an escape.
-/

namespace ColorLiteral.Encoding.Iso2022

/-- The character sets that can be selected. -/
inductive Charset
  | ascii
  | jisLatin
  | jisKana
  /-- JIS X 0208, which has two escape sequences. -/
  | jis
  | jisSupplement
  | jisFirstPlane (edition : Jis.Edition)
  | jisSecondPlane
  | gb
  | ks
  | latin
  | greek
  deriving DecidableEq, Repr

/-- The text at the start of some bytes in a character set, and the number of its bytes behind the
first one. -/
def Charset.unit? (charset : Charset) (byte : UInt8) (rest : List UInt8) : Option (Text × Nat) :=
  match charset with
  | .ascii => (ascii? byte).map single
  | .jisLatin => (Jis.latin? byte).map single
  | .jisKana => (Jis.kana? (byte.toNat + 0x80)).map single
  | .latin | .greek => none
  | .jis => pair fun row cell => (Jis.classic? row cell).map ([·])
  | .jisSupplement => pair fun row cell => (Jis.supplement.char? row cell).map ([·])
  | .jisFirstPlane edition => pair (Jis.tildeText? edition)
  | .jisSecondPlane => pair fun row cell => (Jis.plane2.char? row cell).map ([·])
  | .gb => pair fun row cell => (Gb.basic.char? row cell).map ([·])
  | .ks => pair fun row cell => (Ks.basic.char? row cell).map ([·])
where
  /-- The text of a row and a cell. -/
  pair (text? : Nat → Nat → Option Text) : Option (Text × Nat) := do
    let next ← rest.head?
    let text ← text? (byte.toNat - 0x20) (next.toNat - 0x20)
    some (text, 1)

/-- The bytes for the characters that came late to ISO 8859-7: two signs of currencies and the small
iota below. -/
def lateGreek : List UInt8 := [0x24, 0x25, 0x2A]

/-- The character of a byte behind an escape, in the upper half of a character set. A byte of eight
bits stands for a character in the lower half of the Greek set. -/
def Charset.upper? (charset : Charset) (byte : UInt8) : Option Char :=
  match charset with
  | .ascii => ascii? byte
  | .latin => if byte < 0x80 then some (Char.ofNat (byte.toNat + 0x80)) else none
  | .greek =>
    if lateGreek.contains byte then none
    else CodePage.charOf? CodePage.iso8859_7 (byte + 0x80)
  | _ => none

/-- What tells the encodings of ISO 2022 apart. -/
structure Variant where
  /-- The character sets of one byte that can be selected, by their final bytes. -/
  narrow : List (Char × Charset)
  /-- The character sets of two bytes that can be selected, by their final bytes. -/
  wide : List (Char × Charset)
  /-- Whether the bytes for shift out and shift in switch to the second place and back. -/
  hasShifts : Bool
  /-- Whether there is a third place. -/
  hasThirdPlace : Bool
  /-- Whether JIS X 0208 may be announced by two bytes in front of its own sequence. -/
  hasAnnouncement : Bool

/-- The character sets in the three places. -/
structure Places where
  first : Charset
  second : Charset
  third : Charset
  shifted : Bool

/-- ASCII stands in all places at the start. -/
def Places.start : Places := ⟨.ascii, .ascii, .ascii, false⟩

/-- The character set of a final byte. -/
def Variant.charset? (v : Variant) (isWide : Bool) (final : UInt8) : Option Charset :=
  let final := Char.ofNat final.toNat
  if isWide then v.wide.lookup final
  else if final = 'B' then some .ascii
  else v.narrow.lookup final

/-- Whether a byte ends an escape sequence. -/
def isFinal (byte : UInt8) : Bool := 0x40 ≤ byte && byte ≤ 0x5A

/-- Selects a character set by the bytes of an escape sequence behind the escape. -/
def Variant.select? (v : Variant) (places : Places) (sequence : List UInt8) : Option Places :=
  match sequence with
  | [0x24, final] => (v.charset? true final).map fun set => { places with first := set }
  | [0x28, final] => (v.charset? false final).map fun set => { places with first := set }
  | [0x29, final] => (v.charset? false final).map fun set => { places with second := set }
  | [0x2E, final] =>
    if v.hasThirdPlace then
      (v.charset? false final).map fun set => { places with third := set }
    else none
  | [0x24, 0x28, final] => (v.charset? true final).map fun set => { places with first := set }
  | [0x24, 0x29, final] => (v.charset? true final).map fun set => { places with second := set }
  | [_, _, 0x1B, 0x24, 0x42] =>
    if v.hasAnnouncement then
      (v.charset? true 0x42).map fun set => { places with first := set }
    else none
  | _ => none

/-- The escape sequence at the start of the bytes behind an escape: up to the first byte that ends
one, where an announcement ends with the sequence behind it. A sequence has to end within 15
bytes. -/
def Variant.sequence? (v : Variant) (bytes : List UInt8) : Option (List UInt8) :=
  let announced := v.hasAnnouncement && [0x26, 0x40].isPrefixOf bytes
  let skipped := if announced then 3 else 0
  match (bytes.drop skipped).findIdx? isFinal with
  | some place => if skipped + place < 15 then some (bytes.take (skipped + place + 1)) else none
  | none => none

/-- Whether a byte behind an escape starts a sequence that selects a character set. -/
def isSelection (byte : UInt8) : Bool :=
  byte = 0x24 || byte = 0x26 || byte = 0x28 || byte = 0x29 || byte = 0x2E

/-- Decodes bytes with given character sets in the three places. An escape that starts no sequence
of this encoding stands for itself, with all bytes up to one that ends a sequence; `passing` tells
that such a sequence is under way. -/
def Variant.decodeFrom? (v : Variant) (places : Places) (passing : Bool) :
    List UInt8 → Option Text
  | [] => some []
  | byte :: rest =>
    let itself := Char.ofNat byte.toNat
    if passing then (v.decodeFrom? places (!isFinal byte) rest).map (itself :: ·)
    else if byte = 0x1B then
      match rest.head? with
      | none => none
      | some next =>
        if isSelection next then do
          let sequence ← v.sequence? rest
          let places ← v.select? places sequence
          v.decodeFrom? places false (rest.drop sequence.length)
        else if v.hasThirdPlace && next = 0x4E then do
          let char ← places.third.upper? (← rest[1]?)
          (v.decodeFrom? places false (rest.drop 2)).map (char :: ·)
        else (v.decodeFrom? places true rest).map (itself :: ·)
    else if v.hasShifts && byte = 0x0F then
      v.decodeFrom? { places with shifted := false } false rest
    else if v.hasShifts && byte = 0x0E then
      v.decodeFrom? { places with shifted := true } false rest
    else if byte = 0x0A then
      (v.decodeFrom? { places with shifted := false } false rest).map ('\n' :: ·)
    else if byte < 0x20 then (v.decodeFrom? places false rest).map (itself :: ·)
    else if 0x80 ≤ byte then none
    else do
      let charset := if places.shifted then places.second else places.first
      let (text, more) ← charset.unit? byte rest
      (v.decodeFrom? places false (rest.drop more)).map (text ++ ·)
termination_by bytes => bytes.length
decreasing_by all_goals simp only [List.length_cons, List.length_drop]; omega

/-- Decodes bytes. -/
def Variant.decode? (v : Variant) : List UInt8 → Option Text := v.decodeFrom? .start false

/-! ### The encodings -/

/-- An encoding for Japanese with given character sets of one and of two bytes. -/
def japanese (narrow wide : List (Char × Charset)) : Variant :=
  ⟨narrow, wide, false, false, true⟩

/-- The Latin letters of JIS X 0201 behind their final byte. -/
def jisLatin : Char × Charset := ('J', .jisLatin)

/-- JIS X 0208 behind each of its final bytes. -/
def jis : List (Char × Charset) := [('B', .jis), ('@', .jis)]

/-- ISO-2022-JP. -/
def jp : Variant := japanese [jisLatin] jis

/-- ISO-2022-JP-1, with JIS X 0212. -/
def jp1 : Variant := japanese [jisLatin] (('D', .jisSupplement) :: jis)

/-- ISO-2022-JP-2, with the characters of Europe, China and Korea. -/
def jp2 : Variant :=
  ⟨[jisLatin, ('A', .latin), ('F', .greek)],
    ('D', .jisSupplement) :: ('C', .ks) :: ('A', .gb) :: jis, false, true, true⟩

/-- ISO-2022-JP-3, with the first edition of JIS X 0213. -/
def jp3 : Variant :=
  japanese [] [('B', .jis), ('O', .jisFirstPlane .first), ('P', .jisSecondPlane)]

/-- ISO-2022-JP-2004, with the second edition of JIS X 0213. -/
def jp2004 : Variant :=
  japanese [] [('B', .jis), ('Q', .jisFirstPlane .second), ('P', .jisSecondPlane)]

/-- ISO-2022-JP with JIS X 0212 and the half-width katakana. -/
def jpExtended : Variant :=
  japanese [jisLatin, ('I', .jisKana)] (('D', .jisSupplement) :: jis)

/-- ISO-2022-KR. -/
def kr : Variant := ⟨[], [('C', .ks)], true, false, false⟩

end ColorLiteral.Encoding.Iso2022
