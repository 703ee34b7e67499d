import ColorLiteral.Json.Basic

/-!
# From tokens to a document

The grammar of JSON as an automaton over tokens: a state says what may come next, and a stack holds
the arrays and objects under way. Every token that a state does not expect ends the reading with the
fault of that state.
-/

namespace ColorLiteral

/-- The two kinds of values that hold others. -/
inductive JsonContainer
  | array
  | object
  deriving DecidableEq, Repr

/-- What is wrong with a JSON text. -/
inductive JsonFault
  | expectingValue
  | expectingPropertyName
  | expectingColon
  | expectingComma
  | extraData
  | unterminatedString
  | controlCharacter
  | invalidEscape
  | invalidUnicodeEscape
  /-- Half of a pair of code units stands alone. It is no character of a text. -/
  | loneHalf
  | byteOrderMark
  /-- An integer has too many digits. -/
  | tooManyDigits (count : Nat)
  /-- Arrays and objects are nested too deeply. The kind of the last one may be known. -/
  | tooDeep (container : Option JsonContainer)
  deriving DecidableEq, Repr

/-- The wording of a fault. -/
def JsonFault.description : JsonFault → Text
  | .expectingValue => "Expecting value"
  | .expectingPropertyName => "Expecting property name enclosed in double quotes"
  | .expectingColon => "Expecting ':' delimiter"
  | .expectingComma => "Expecting ',' delimiter"
  | .extraData => "Extra data"
  | .unterminatedString => "Unterminated string starting at"
  | .controlCharacter => "Invalid control character at"
  | .invalidEscape => "Invalid \\escape"
  | .invalidUnicodeEscape => "Invalid \\uXXXX escape"
  | .loneHalf => "Half of a pair without the other half at"
  | .byteOrderMark => "Unexpected UTF-8 BOM (decode using utf-8-sig)"
  | .tooManyDigits count =>
    "Exceeds the limit (4300 digits) for integer string conversion: value has " ++
      Text.ofNat count ++ " digits; use sys.set_int_max_str_digits() to increase the limit"
  | .tooDeep _ => "Nested too deeply"

/-- A fault and its offset in the text. -/
structure JsonError where
  fault : JsonFault
  offset : Nat
  deriving DecidableEq, Repr

/-- The message of an error in a text, which names its line and column, both counted from one. -/
def JsonError.message (e : JsonError) (source : Text) : Text :=
  let before := source.take e.offset
  let line := before.count '\n' + 1
  let column := (before.reverse.takeWhile (· ≠ '\n')).length + 1
  e.fault.description ++ ": line " ++ Text.ofNat line ++ " column " ++ Text.ofNat column ++
    " (char " ++ Text.ofNat e.offset ++ ")"

/-- A token of a JSON text. -/
inductive JsonToken (ν : Type)
  | openArray
  | closeArray
  | openObject
  | closeObject
  | comma
  | colon
  | scalar (value : Json ν)
  | string (value : Text)
  /-- A name without quotes, a key or the name of a value. -/
  | name (value : Text)
  /-- A name without quotes that is spelled with escapes, which is a key only. -/
  | escapedName (value : Text)
  /-- A string literal with an error inside. -/
  | badString (error : JsonError)
  /-- An integer that is not read, by the number of its digits. -/
  | badNumber (digits : Nat)
  /-- Characters that start no token. -/
  | unknown

namespace Json

variable {ν : Type}

/-- An array or object that surrounds the value being read. -/
inductive Frame (ν : Type)
  | item (items : List (Json ν))
  | member (members : List (Text × Json ν)) (key : Text)

/-- Where the two notations of JSON differ in their grammar. -/
structure Dialect (ν : Type) where
  /-- Whether a comma may stand behind the last item or member. -/
  trailingComma : Bool
  /-- The values that are written as names. -/
  named : Text → Option (Json ν)
  /-- The fault of a token that would start a value too deep inside arrays and objects. -/
  overflow? : List (Frame ν) → JsonToken ν → Option JsonFault

/-- What has been read and what may come next. -/
inductive State (ν : Type)
  /-- A value. -/
  | value (stack : List (Frame ν))
  /-- An item, or the end of the array. -/
  | itemOrEnd (items : List (Json ν)) (stack : List (Frame ν))
  /-- The key of a member. -/
  | key (members : List (Text × Json ν)) (stack : List (Frame ν))
  /-- The key of a member, or the end of the object. -/
  | keyOrEnd (members : List (Text × Json ν)) (stack : List (Frame ν))
  /-- The colon behind a key. -/
  | colon (members : List (Text × Json ν)) (key : Text) (stack : List (Frame ν))
  /-- A comma, or the end of the array. -/
  | afterItem (items : List (Json ν)) (stack : List (Frame ν))
  /-- A comma, or the end of the object. -/
  | afterMember (members : List (Text × Json ν)) (stack : List (Frame ν))
  /-- Nothing. -/
  | finished (document : Json ν)

/-- The fault of a token that a state does not expect. -/
def State.fault : State ν → JsonFault
  | .value _ | .itemOrEnd _ _ => .expectingValue
  | .key _ _ | .keyOrEnd _ _ => .expectingPropertyName
  | .colon _ _ _ => .expectingColon
  | .afterItem _ _ | .afterMember _ _ => .expectingComma
  | .finished _ => .extraData

/-- The state behind a complete value. -/
def deliver (value : Json ν) : List (Frame ν) → State ν
  | [] => .finished value
  | .item items :: stack => .afterItem (items ++ [value]) stack
  | .member members key :: stack => .afterMember (putMember key value members) stack

/-- The state behind the first token of a value. -/
def beginValue (dialect : Dialect ν) (stack : List (Frame ν)) (token : JsonToken ν)
    (offset : Nat) : Except JsonError (State ν) :=
  match dialect.overflow? stack token with
  | some fault => .error ⟨fault, offset⟩
  | none =>
    match token with
    | .openArray => .ok (.itemOrEnd [] stack)
    | .openObject => .ok (.keyOrEnd [] stack)
    | .scalar v => .ok (deliver v stack)
    | .string t => .ok (deliver (.string t) stack)
    | .name t =>
      match dialect.named t with
      | some v => .ok (deliver v stack)
      | none => .error ⟨.expectingValue, offset⟩
    | .badString e => .error e
    | .badNumber digits => .error ⟨.tooManyDigits digits, offset⟩
    | _ => .error ⟨.expectingValue, offset⟩

/-- The state behind a key. -/
def beginMember (members : List (Text × Json ν)) (stack : List (Frame ν)) (token : JsonToken ν)
    (offset : Nat) : Except JsonError (State ν) :=
  match token with
  | .string t | .name t | .escapedName t => .ok (.colon members t stack)
  | .badString e => .error e
  | _ => .error ⟨.expectingPropertyName, offset⟩

/-- The state behind one more token. -/
def step (dialect : Dialect ν) (state : State ν) (located : JsonToken ν × Nat) :
    Except JsonError (State ν) :=
  let (token, offset) := located
  match state, token with
  | .value stack, token => beginValue dialect stack token offset
  | .itemOrEnd items stack, .closeArray => .ok (deliver (.array items) stack)
  | .itemOrEnd items stack, token => beginValue dialect (.item items :: stack) token offset
  | .key members stack, token => beginMember members stack token offset
  | .keyOrEnd members stack, .closeObject => .ok (deliver (.object members) stack)
  | .keyOrEnd members stack, token => beginMember members stack token offset
  | .colon members key stack, .colon => .ok (.value (.member members key :: stack))
  | .afterItem items stack, .closeArray => .ok (deliver (.array items) stack)
  | .afterItem items stack, .comma =>
    .ok (if dialect.trailingComma then .itemOrEnd items stack else .value (.item items :: stack))
  | .afterMember members stack, .closeObject => .ok (deliver (.object members) stack)
  | .afterMember members stack, .comma =>
    .ok (if dialect.trailingComma then .keyOrEnd members stack else .key members stack)
  | state, _ => .error ⟨state.fault, offset⟩

/-- The document of a text with given tokens that ends at a given offset. -/
def ofTokens (dialect : Dialect ν) (tokens : List (JsonToken ν × Nat)) (stop : Nat) :
    Except JsonError (Json ν) := do
  match ← tokens.foldlM (step dialect) (.value []) with
  | .finished document => .ok document
  | state => .error ⟨state.fault, stop⟩

end Json

end ColorLiteral
