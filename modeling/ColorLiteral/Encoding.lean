import ColorLiteral.Encoding.Chinese
import ColorLiteral.Encoding.Escape
import ColorLiteral.Encoding.Iso2022
import ColorLiteral.Encoding.Japanese
import ColorLiteral.Encoding.Korean
import ColorLiteral.Encoding.Name
import ColorLiteral.Encoding.Punycode
import ColorLiteral.Encoding.Table.CodePage
import ColorLiteral.Encoding.Unicode
import ColorLiteral.Encoding.Utf7

/-!
# Encodings of text

An encoding decodes bytes into text, and refuses bytes that are no text of it. `Encoding.ofName?`
finds it by any of its names.
-/

namespace ColorLiteral

/-- What a name of an encoding stands for. -/
inductive Encoding
  | text (decode? : List UInt8 → Option Text)
  /-- A conversion from bytes to bytes or from text to text. -/
  | conversion

namespace Encoding

/-- The character with the number of a byte. -/
def byteChar (byte : UInt8) : Char := Char.ofNat byte.toNat

/-- The encodings of text that have no table of their own, under their normal names. The one that is
undefined refuses all bytes. -/
def decoders : List (String × (List UInt8 → Option Text)) :=
  [("utf_8", decodeUtf8), ("utf_8_sig", decodeMarkedUtf8), ("utf_16", decodeMarkedUtf16),
   ("utf_16_le", decodeUtf16 true), ("utf_16_be", decodeUtf16 false),
   ("utf_32", decodeMarkedUtf32), ("utf_32_le", decodeUtf32 true),
   ("utf_32_be", decodeUtf32 false), ("utf_7", Utf7.decode?), ("ascii", decodeBytes ascii?),
   ("latin_1", fun bytes => some (bytes.map byteChar)),
   ("iso8859_1", fun bytes => some (bytes.map byteChar)),
   ("charmap", fun bytes => some (bytes.map byteChar)), ("undefined", fun _ => none),
   ("unicode_escape", Escape.decodeLiteral?), ("raw_unicode_escape", Escape.decodeRaw?),
   ("punycode", Punycode.decode?), ("idna", Punycode.decodeHost?), ("big5", Big5.decode?),
   ("big5hkscs", Big5.decodeHongKong?), ("cp950", Big5.decodeWindows?),
   ("gb2312", Gb.decodeBasic?), ("gbk", Gb.decodeWide?), ("gb18030", Gb.decodeFull?),
   ("hz", Gb.decodeHz? false), ("shift_jis", ShiftJis.decode?), ("cp932", ShiftJis.decodeVendor?),
   ("shift_jisx0213", ShiftJis.decodeWide? .first),
   ("shift_jis_2004", ShiftJis.decodeWide? .second), ("euc_jp", Euc.decodeJp?),
   ("euc_jisx0213", Euc.decodeJis? .first), ("euc_jis_2004", Euc.decodeJis? .second),
   ("euc_kr", Ks.decodeEuc?), ("cp949", Ks.decodeWide?), ("johab", Ks.decodeJohab?),
   ("iso2022_jp", Iso2022.jp.decode?), ("iso2022_jp_1", Iso2022.jp1.decode?),
   ("iso2022_jp_2", Iso2022.jp2.decode?), ("iso2022_jp_3", Iso2022.jp3.decode?),
   ("iso2022_jp_2004", Iso2022.jp2004.decode?), ("iso2022_jp_ext", Iso2022.jpExtended.decode?),
   ("iso2022_kr", Iso2022.kr.decode?)]

/-- The normal names of conversions. -/
def conversions : List String :=
  ["base64_codec", "bz2_codec", "hex_codec", "quopri_codec", "rot_13", "uu_codec", "zlib_codec"]

/-- What a normal name stands for. -/
def ofNormalName? (name : Text) : Option Encoding :=
  match decoders.find? (·.1.toList == name) with
  | some (_, decode?) => some (.text decode?)
  | none =>
    match CodePage.all.find? (·.1.toList == name) with
    | some (_, page) => some (.text page.decode?)
    | none => if conversions.any (·.toList == name) then some .conversion else none

/-- What a name stands for. Text is in UTF-8 where the name leaves the encoding to the place. -/
def ofName? (name : Text) : Option Encoding :=
  if name = "locale".toList then some (.text decodeUtf8)
  else (meanings name).findSome? ofNormalName?

end Encoding

end ColorLiteral
