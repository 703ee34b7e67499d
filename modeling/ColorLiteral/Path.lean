import ColorLiteral.Text.Basic

/-!
# Paths

An absolute path without `.` and `..` is the list of its names. Resolving a written path is a matter
of its text alone, since there are no links: `..` takes back the name in front of it.
-/

namespace ColorLiteral

/-- An absolute path: its names from the root on. -/
structure Path where
  names : List Text
  deriving DecidableEq, Repr

namespace Path

/-- The root. -/
def root : Path := ⟨[]⟩

/-- A path one name further down. -/
def child (p : Path) (name : Text) : Path := ⟨p.names ++ [name]⟩

/-- A path one name further up; the root is above itself. -/
def parent (p : Path) : Path := ⟨p.names.dropLast⟩

/-- Goes from a path along one written name. -/
def follow (p : Path) (name : Text) : Path :=
  if name.isEmpty || name == ['.'] then p
  else if name == ['.', '.'] then p.parent
  else p.child name

/-- The path that a text denotes at a given place; a text that starts with a slash denotes the same
path everywhere. -/
def resolve (place : Path) (t : Text) : Path :=
  let start := if t.head? = some '/' then root else place
  (Text.splitOn '/' t).foldl follow start

/-- Whether a path is another one or lies below it. -/
def isWithin (p top : Path) : Bool := top.names.isPrefixOf p.names

/-- The last name of a path. -/
def name (p : Path) : Text := p.names.getLastD []

/-- Whether the character with the number zero is in a name of a path. There is no such path among
files. -/
def hasNul (p : Path) : Bool := p.names.any Text.hasNul

/-- A path and all paths above it, from the bottom up. -/
def ancestors (p : Path) : List Path :=
  (List.range (p.names.length + 1)).reverse.map fun n => ⟨p.names.take n⟩

/-- A path as text. -/
def toText (p : Path) : Text :=
  if p.names.isEmpty then ['/'] else p.names.flatMap ('/' :: ·)

end Path

end ColorLiteral
