import ColorLiteral.Binary64.Shortest
import ColorLiteral.Json.Basic
import ColorLiteral.Text.Quoted

/-!
# Settings as text

How a value from a settings file reads in running text: a string stands for itself at the top and in
quotes inside other values. An integer with too many digits has no text, and neither has a value
with one inside. Also the names of the types of values, and which values count as absent.
-/

namespace ColorLiteral.Config

/-- A value of a settings file. -/
abbrev Value := Json JsonNumber

/-- The members of an object of a settings file. -/
abbrev Members := List (Text × Value)

/-- A number in running text. -/
def numberText : JsonNumber → Text
  | .integer n => Text.ofInt n
  | .float x => x.toText

mutual

/-- A value inside another one. -/
def innerText : Value → Text
  | .null => "None".toList
  | .bool true => "True".toList
  | .bool false => "False".toList
  | .number n => numberText n
  | .string t => Text.quoted t
  | .array [] => "[]".toList
  | .array (item :: items) => '[' :: innerText item ++ itemTexts items ++ [']']
  | .object [] => "\x7b\x7d".toList
  | .object ((key, value) :: members) =>
    '{' :: Text.quoted key ++ ": ".toList ++ innerText value ++ memberTexts members ++ ['}']

/-- The items of a list behind the first one. -/
def itemTexts : List Value → Text
  | [] => []
  | item :: items => ", ".toList ++ innerText item ++ itemTexts items

/-- The members of an object behind the first one. -/
def memberTexts : List (Text × Value) → Text
  | [] => []
  | (key, value) :: members =>
    ", ".toList ++ Text.quoted key ++ ": ".toList ++ innerText value ++ memberTexts members

end

/-- A value in running text, whatever the number of its digits. -/
def valueText : Value → Text
  | .string t => t
  | v => innerText v

/-! ### Integers with too many digits -/

/-- Whether a number is written out: an integer with no more digits than one may have that is
read. -/
def isShortNumber : JsonNumber → Bool
  | .integer n => n.natAbs < Nat.pow 10 JsonNumber.digitLimit
  | .float _ => true

mutual

/-- Whether all numbers of a value are written out. -/
def isWritable : Value → Bool
  | .number n => isShortNumber n
  | .array items => areWritable items
  | .object members => haveWritableValues members
  | _ => true

/-- Whether all numbers of some items are written out. -/
def areWritable : List Value → Bool
  | [] => true
  | item :: items => isWritable item && areWritable items

/-- Whether all numbers of some members are written out. -/
def haveWritableValues : List (Text × Value) → Bool
  | [] => true
  | (_, value) :: members => isWritable value && haveWritableValues members

end

/-- A value in running text, unless an integer in it has too many digits. -/
def valueText? (v : Value) : Option Text := if isWritable v then some (valueText v) else none

/-- What is said of an integer with too many digits. -/
def tooManyDigitsText : Text :=
  "Exceeds the limit (4300 digits) for integer string conversion; " ++
  "use sys.set_int_max_str_digits() to increase the limit"

/-! ### Kinds of values -/

/-- Whether a value counts as absent: null, false, zero, and empty texts and containers. -/
def isVoid : Value → Bool
  | .null | .bool false | .string [] | .array [] | .object [] => true
  | .number (.integer n) => n == 0
  | .number (.float (.finite _ m)) => m.units == 0
  | _ => false

/-- The name of the type of a value. -/
def typeName : Value → Text
  | .null => "NoneType"
  | .bool _ => "bool"
  | .number (.integer _) => "int"
  | .number (.float _) => "float"
  | .string _ => "str"
  | .array _ => "list"
  | .object _ => "dict"

end ColorLiteral.Config
