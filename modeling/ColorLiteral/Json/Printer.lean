import ColorLiteral.Json.Basic

/-!
# Printing JSON

A document whose numbers are texts, printed with one item or member a line and two blanks a level.
Inside strings only quotes, backslashes and control characters are escaped.
-/

namespace ColorLiteral.Json

/-- A character as it stands inside a string. -/
def escapeChar (c : Char) : Text :=
  if c = '"' then ['\\', '"']
  else if c = '\\' then ['\\', '\\']
  else if c = '\n' then ['\\', 'n']
  else if c = '\r' then ['\\', 'r']
  else if c = '\t' then ['\\', 't']
  else if c = '\x08' then ['\\', 'b']
  else if c = '\x0c' then ['\\', 'f']
  else if c.toNat < 0x20 then '\\' :: 'u' :: Text.hexDigits 4 c.toNat
  else [c]

/-- A text as a string. -/
def printString (t : Text) : Text := '"' :: t.flatMap escapeChar ++ ['"']

/-- The break in front of a line of a given level. -/
def lineBreak (level : Nat) : Text := '\n' :: List.replicate (2 * level) ' '

mutual

/-- A document on a given level. -/
def printAt (level : Nat) : Json Text → Text
  | .null => "null".toList
  | .bool true => "true".toList
  | .bool false => "false".toList
  | .number lexeme => lexeme
  | .string t => printString t
  | .array [] => "[]".toList
  | .array (item :: items) =>
    '[' :: lineBreak (level + 1) ++ printAt (level + 1) item ++ printItems (level + 1) items ++
      lineBreak level ++ [']']
  | .object [] => "\x7b\x7d".toList
  | .object ((key, value) :: members) =>
    '{' :: lineBreak (level + 1) ++ printString key ++ ": ".toList ++ printAt (level + 1) value ++
      printMembers (level + 1) members ++ lineBreak level ++ ['}']

/-- The items of an array behind the first one. -/
def printItems (level : Nat) : List (Json Text) → Text
  | [] => []
  | item :: items => ',' :: lineBreak level ++ printAt level item ++ printItems level items

/-- The members of an object behind the first one. -/
def printMembers (level : Nat) : List (Text × Json Text) → Text
  | [] => []
  | (key, value) :: members =>
    ',' :: lineBreak level ++ printString key ++ ": ".toList ++ printAt level value ++
      printMembers level members

end

/-- A document as text. -/
def print (document : Json Text) : Text := printAt 0 document

end ColorLiteral.Json
