import ColorLiteral.Binary64.DecimalText

/-!
# JSON documents

A JSON document over any type of numbers. A reader may keep its numbers as they are written or turn
them into integers and binary64 numbers. The members of an object keep the order in which their
keys first appear.
-/

namespace ColorLiteral

/-- A JSON document with numbers of a given type. -/
inductive Json (ν : Type)
  | null
  | bool (value : Bool)
  | number (value : ν)
  | string (value : Text)
  | array (items : List (Json ν))
  | object (members : List (Text × Json ν))

namespace Json

variable {ν : Type}

/-- The members of an object with one more: a repeated key keeps its place and takes the new
value. -/
def putMember (key : Text) (value : Json ν) : List (Text × Json ν) → List (Text × Json ν)
  | [] => [(key, value)]
  | (k, v) :: rest => if k = key then (k, value) :: rest else (k, v) :: putMember key value rest

/-- The value of a key among the members of an object. -/
def member? (key : Text) (members : List (Text × Json ν)) : Option (Json ν) :=
  (members.find? fun m => m.1 == key).map Prod.snd

end Json

/-- A number of a JSON document. -/
inductive JsonNumber
  | integer (value : Int)
  | float (value : Binary64)
  deriving DecidableEq

namespace JsonNumber

/-- The greatest number of digits of an integer that is read. -/
def digitLimit : Nat := 4300

/-- Reads an integer of ASCII digits, unless it has too many. -/
def integerOfDigits? (negative : Bool) (digits : Text) : Option JsonNumber :=
  if digits.length > digitLimit then none
  else
    let value := Text.valueInBase 10 (digits.filterMap Text.asciiDigitValue?)
    some (.integer (if negative then -(value : Int) else value))

/-- Reads a number as JSON writes it: a fraction or an exponent makes it a binary64 number. -/
def ofLexeme? (t : Text) : Option JsonNumber :=
  if t.any fun c => c = '.' || c = 'e' || c = 'E' then (Binary64.ofText? t).map float
  else match t with
    | '-' :: digits => integerOfDigits? true digits
    | digits => integerOfDigits? false digits

end JsonNumber

end ColorLiteral
