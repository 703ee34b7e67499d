/-!
# Text

A text is the list of its code points, so that every offset of the library counts code points and
every scanner is a recursion on a list. Strings appear only as literals and at the outer edge.
-/

namespace ColorLiteral

/-- A text is the list of its code points. -/
abbrev Text := List Char

/-- A string literal stands for its code points. -/
instance : Coe String Text := ⟨String.toList⟩

namespace Text

/-- The decimal digits of a natural number, without leading zeros. -/
def ofNat (n : Nat) : Text := Nat.toDigits 10 n

/-- The decimal digits of an integer, behind a minus sign when it is negative. -/
def ofInt : Int → Text
  | .ofNat n => ofNat n
  | .negSucc n => '-' :: ofNat (n + 1)

/-- The texts one after another, with a separator between neighbours. -/
def joinWith (separator : Text) (texts : List Text) : Text :=
  separator.intercalate texts

/-- The part of a text before the first separator, and after it the rest, cut the same way. -/
def splitOn (separator : Char) : Text → List Text
  | [] => [[]]
  | c :: rest =>
    if c = separator then [] :: splitOn separator rest
    else match splitOn separator rest with
      | [] => [[c]]
      | first :: others => (c :: first) :: others

/-- A text behind as many copies of a filler as bring it to a width. -/
def padLeft (width : Nat) (filler : Char) (t : Text) : Text :=
  List.replicate (width - t.length) filler ++ t

/-- The digits of a number in base sixteen, in lower case, with zeros in front up to a width. -/
def hexDigits (width n : Nat) : Text :=
  padLeft width '0' (Nat.toDigits 16 n)

/-- The beginning of a text with at most a number of bytes in UTF-8. A character of which only some
bytes fit becomes the replacement character. -/
def clipBytes : Nat → Text → Text
  | _, [] => []
  | size, c :: rest =>
    if c.utf8Size ≤ size then c :: clipBytes (size - c.utf8Size) rest
    else if size = 0 then []
    else ['\ufffd']

/-- Whether the character with the number zero is in a text, which no path and no variable can
hold. -/
def hasNul (t : Text) : Bool := t.contains '\x00'

/-- The order of texts by code points, a proper initial part first. -/
def precedes : Text → Text → Bool
  | _, [] => false
  | [], _ :: _ => true
  | a :: s, b :: t => a.toNat < b.toNat || (a == b && precedes s t)

end Text

/-! ### Tables of characters -/

namespace CharTable

/-- Whether a code point lies in one of the closed ranges of a table. -/
def covers (table : List (Nat × Nat)) (c : Char) : Bool :=
  table.any fun range => range.1 ≤ c.toNat && c.toNat ≤ range.2

end CharTable

end ColorLiteral
