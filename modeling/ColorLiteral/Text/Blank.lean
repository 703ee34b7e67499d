import ColorLiteral.Text.Basic

/-!
# Blank characters

The characters that separate tokens and that trimming removes: the white space of the Unicode
standard, and the four information separators U+001C to U+001F. A zero width space and a byte
order mark are not among them.
-/

namespace ColorLiteral.Text

/-- The ranges of blank characters. -/
def blankRanges : List (Nat × Nat) :=
  [(0x9, 0xD), (0x1C, 0x20), (0x85, 0x85), (0xA0, 0xA0), (0x1680, 0x1680), (0x2000, 0x200A),
   (0x2028, 0x2029), (0x202F, 0x202F), (0x205F, 0x205F), (0x3000, 0x3000)]

/-- Whether a character is blank. -/
def isBlank (c : Char) : Bool := CharTable.covers blankRanges c

/-- A text without the blank characters at its start. -/
def trimLeft (t : Text) : Text := t.dropWhile isBlank

/-- A text without the blank characters at its end. -/
def trimRight (t : Text) : Text := (t.reverse.dropWhile isBlank).reverse

/-- A text without the blank characters at both ends. -/
def trim (t : Text) : Text := trimRight (trimLeft t)

end ColorLiteral.Text
