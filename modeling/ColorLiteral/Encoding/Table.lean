import ColorLiteral.Text.Basic

/-!
# Tables of characters

The two forms in which the character sets list their characters: runs of consecutive numbers, and
rows of cells. In both the replacement character stands where a set has no character.
-/

namespace ColorLiteral.Encoding

/-- Stands where a character set has no character. -/
def noChar : Char := '\ufffd'

/-! ### Runs -/

/-- Characters with consecutive numbers, each run behind the number of its first character. -/
abbrev Runs := List (Nat × String)

/-- What runs list under a number. -/
def Runs.get? (runs : Runs) (number : Nat) : Option Char :=
  runs.findSome? fun (first, chars) =>
    if first ≤ number then chars.toList[number - first]? else none

/-- The character with a number. -/
def Runs.char? (runs : Runs) (number : Nat) : Option Char := (runs.get? number).filter (· ≠ noChar)

/-! ### Rows -/

/-- The rows of a character set from the first one on, each with its cells. -/
abbrev Grid := List String

/-- The character in a cell. Rows and cells are counted from one. -/
def Grid.char? (grid : Grid) : Nat → Nat → Option Char
  | row + 1, cell + 1 => do
    let chars ← grid[row]?
    chars.toList[cell]?.filter (· ≠ noChar)
  | _, _ => none

/-- All characters of some rows, in the order of rows and cells. -/
def Grid.chars (grid : Grid) : List Char :=
  grid.flatMap fun row => row.toList.filter (· ≠ noChar)

end ColorLiteral.Encoding
