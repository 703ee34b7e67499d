import ColorLiteral.Binary64.HexText
import ColorLiteral.Json.Automaton
import ColorLiteral.Outcome

/-!
# Standard JSON

Reading of standard JSON. How numbers are read, whether the names of infinity and NaN count as
numbers, and how deep arrays and objects may be nested is up to the caller. Each error names the
offset where the text stops being JSON.
-/

namespace ColorLiteral.Json

/-! ### Strings -/

/-- The number that hexadecimal digits spell. -/
def hexValue? (digits : List Char) : Option Nat :=
  (digits.mapM nibble?).map (Text.valueInBase 16)

/-- Whether a code unit is the first half of a pair. -/
def isHighHalf (unit : Nat) : Bool := 0xD800 ≤ unit && unit < 0xDC00

/-- Whether a code unit is the second half of a pair. -/
def isLowHalf (unit : Nat) : Bool := 0xDC00 ≤ unit && unit < 0xE000

/-- The character of a pair of code units. -/
def charOfPair (high low : Nat) : Char :=
  Char.ofNat (0x10000 + (high - 0xD800) * 0x400 + (low - 0xDC00))

/-- The character that a backslash and a letter stand for. -/
def simpleEscape? : Char → Option Char
  | '"' => some '"'
  | '\\' => some '\\'
  | '/' => some '/'
  | 'b' => some '\x08'
  | 'f' => some '\x0c'
  | 'n' => some '\n'
  | 'r' => some '\r'
  | 't' => some '\t'
  | _ => none

/-- The four digits of an escape, which must not be the last characters of the text. -/
def fourDigits? : Text → Option (Nat × Text)
  | a :: b :: c :: d :: e :: rest => (hexValue? [a, b, c, d]).map fun unit => (unit, e :: rest)
  | _ => none

/-- The second half of a pair, when its escape comes next. -/
def lowHalf? (t : Text) : Option (Nat × Text) :=
  if "\\u".toList.isPrefixOf t then
    match fourDigits? (t.drop 2) with
    | some (unit, after) => if isLowHalf unit then some (unit, after) else none
    | none => none
  else none

/-- Reads the rest of a four-digit escape: a character and what follows. Half of a pair is no
character unless the other half comes next. -/
def readUnit? (t : Text) : Option (Char × Text) :=
  match fourDigits? t with
  | none => none
  | some (unit, after) =>
    if isHighHalf unit then
      (lowHalf? after).map fun (low, rest) => (charOfPair unit low, rest)
    else if isLowHalf unit then none
    else some (Char.ofNat unit, after)

/-- What is wrong with the rest of a four-digit escape that is not read. -/
def unitFault (t : Text) : JsonFault :=
  if (fourDigits? t).isSome then .loneHalf else .invalidUnicodeEscape

theorem length_lt_of_fourDigits? {t after : Text} {unit : Nat}
    (h : fourDigits? t = some (unit, after)) : after.length < t.length := by
  unfold fourDigits? at h
  split at h
  · obtain ⟨_, _, heq⟩ := Option.map_eq_some_iff.1 h
    cases heq
    simp only [List.length_cons]
    omega
  · cases h

theorem length_lt_of_lowHalf? {t after : Text} {unit : Nat} (h : lowHalf? t = some (unit, after)) :
    after.length < t.length := by
  unfold lowHalf? at h
  split at h
  · split at h
    · rename_i hdigits
      split at h
      · cases h
        have := length_lt_of_fourDigits? hdigits
        simp only [List.length_drop] at this
        omega
      · cases h
    · cases h
  · cases h

theorem length_lt_of_readUnit? {t after : Text} {c : Char} (h : readUnit? t = some (c, after)) :
    after.length < t.length := by
  unfold readUnit? at h
  split at h
  · cases h
  · rename_i hdigits
    have hlt := length_lt_of_fourDigits? hdigits
    split at h
    · obtain ⟨⟨low, rest⟩, hlow, heq⟩ := Option.map_eq_some_iff.1 h
      obtain ⟨_, rfl⟩ := Prod.mk.inj heq
      exact Nat.lt_trans (length_lt_of_lowHalf? hlow) hlt
    · split at h
      · cases h
      · obtain ⟨_, rfl⟩ := Prod.mk.inj (Option.some.inj h)
        exact hlt

/-- Puts a character in front of what has been read. -/
def pushChar (c : Char) (read : Text × Text) : Text × Text := (c :: read.1, read.2)

/-- Reads a string from behind its opening quote, which stands at `start`, in a text of `total`
characters: the characters and what follows the closing quote. -/
def readString (total start : Nat) : Text → Except JsonError (Text × Text)
  | [] => .error ⟨.unterminatedString, start⟩
  | ['\\'] => .error ⟨.unterminatedString, start⟩
  | '\\' :: 'u' :: rest =>
    match _h : readUnit? rest with
    | none => .error ⟨unitFault rest, total - rest.length - 1⟩
    | some (c, after) => (readString total start after).map (pushChar c)
  | '\\' :: c :: rest =>
    match simpleEscape? c with
    | none => .error ⟨.invalidEscape, total - rest.length - 2⟩
    | some e => (readString total start rest).map (pushChar e)
  | c :: rest =>
    if c = '"' then .ok ([], rest)
    else if c.toNat < 0x20 then .error ⟨.controlCharacter, total - rest.length - 1⟩
    else (readString total start rest).map (pushChar c)
termination_by t => t.length
decreasing_by
  · have := length_lt_of_readUnit? ‹_›
    simp only [List.length_cons]
    omega
  · simp only [List.length_cons]; omega
  · simp only [List.length_cons]; omega

theorem length_lt_of_readString {total start : Nat} {t content after : Text}
    (h : readString total start t = .ok (content, after)) : after.length < t.length := by
  fun_induction readString total start t generalizing content after with
  | case1 | case2 | case3 | case5 | case8 => cases h
  | case4 rest c following hunit ih =>
    obtain ⟨⟨_, _⟩, hread, heq⟩ := Outcome.exists_of_map_eq_ok h
    cases heq
    have := ih hread
    have := length_lt_of_readUnit? hunit
    simp only [List.length_cons]
    omega
  | case6 c rest _ e _ ih =>
    obtain ⟨⟨_, _⟩, hread, heq⟩ := Outcome.exists_of_map_eq_ok h
    cases heq
    have := ih hread
    simp only [List.length_cons]
    omega
  | case7 => cases h; simp
  | case9 c rest _ _ _ _ _ ih =>
    obtain ⟨⟨_, _⟩, hread, heq⟩ := Outcome.exists_of_map_eq_ok h
    cases heq
    have := ih hread
    simp only [List.length_cons]
    omega

/-! ### Numbers -/

/-- The integer part at the start of a text: a zero, or digits that do not start with one. -/
def wholeDigits : Text → Text
  | '0' :: _ => ['0']
  | t => t.takeWhile Char.isDigit

/-- The fraction at the start of a text. -/
def fractionDigits : Text → Text
  | '.' :: rest =>
    let digits := rest.takeWhile Char.isDigit
    if digits.isEmpty then [] else '.' :: digits
  | _ => []

/-- The exponent at the start of a text. -/
def exponentDigits : Text → Text
  | c :: rest =>
    if c = 'e' || c = 'E' then
      let sign : Text := match rest with
        | '+' :: _ => ['+']
        | '-' :: _ => ['-']
        | _ => []
      let digits := (rest.drop sign.length).takeWhile Char.isDigit
      if digits.isEmpty then [] else c :: sign ++ digits
    else []
  | [] => []

/-- The number at the start of a text, empty if there is none. -/
def numberLexeme (t : Text) : Text :=
  let sign : Text := match t with
    | '-' :: _ => ['-']
    | _ => []
  let whole := wholeDigits (t.drop sign.length)
  if whole.isEmpty then []
  else
    let rest := t.drop (sign.length + whole.length)
    let fraction := fractionDigits rest
    sign ++ whole ++ fraction ++ exponentDigits (rest.drop fraction.length)

/-! ### Tokens -/

variable {ν : Type}

/-- How the numbers of a text are read. -/
structure NumberReader (ν : Type) where
  /-- Reads a number, unless it has too many digits. -/
  ofLexeme? : Text → Option ν
  /-- The numbers that are written as names. -/
  named : List (Text × ν)

/-- The values that are written as names. -/
def namedValues (numbers : NumberReader ν) : List (Text × Json ν) :=
  ("null".toList, .null) :: ("true".toList, .bool true) :: ("false".toList, .bool false) ::
    numbers.named.map fun (name, value) => (name, .number value)

/-- The token of a single character. -/
def punctuation? : Char → Option (JsonToken ν)
  | '[' => some .openArray
  | ']' => some .closeArray
  | '{' => some .openObject
  | '}' => some .closeObject
  | ',' => some .comma
  | ':' => some .colon
  | _ => none

/-- The value that starts a text, and its number of characters. -/
def scalar? (numbers : NumberReader ν) (t : Text) : Option (JsonToken ν × Nat) :=
  match (namedValues numbers).find? fun (name, _) => name.isPrefixOf t with
  | some (name, value) => some (.scalar value, name.length)
  | none =>
    let lexeme := numberLexeme t
    if lexeme.isEmpty then none
    else match numbers.ofLexeme? lexeme with
      | some value => some (.scalar (.number value), lexeme.length)
      | none => some (.badNumber (lexeme.countP Char.isDigit), lexeme.length)

/-- Whether a character separates tokens. -/
def isJsonBlank (c : Char) : Bool := c = ' ' || c = '\t' || c = '\n' || c = '\r'

/-- The tokens of the end of a text of `total` characters, each with its offset. They stop behind
characters that start no token. -/
def tokens (numbers : NumberReader ν) (total : Nat) : Text → List (JsonToken ν × Nat)
  | [] => []
  | c :: rest =>
    let offset := total - rest.length - 1
    if isJsonBlank c then tokens numbers total rest
    else if c = '"' then
      match _h : readString total offset rest with
      | .error e => [(.badString e, offset)]
      | .ok (content, after) => (.string content, offset) :: tokens numbers total after
    else match punctuation? c with
      | some token => (token, offset) :: tokens numbers total rest
      | none =>
        match scalar? numbers (c :: rest) with
        | some (token, size) => (token, offset) :: tokens numbers total (rest.drop (size - 1))
        | none => [(.unknown, offset)]
termination_by t => t.length
decreasing_by
  · simp
  · exact Nat.lt_succ_of_lt (length_lt_of_readString ‹_›)
  · simp
  · simp only [List.length_drop, List.length_cons]; omega

/-- The fault of an array or object that starts inside as many others as there may be nested. -/
def nestingOverflow? (limit : Option Nat) (stack : List (Frame ν)) (token : JsonToken ν) :
    Option JsonFault :=
  match limit, token with
  | some limit, .openArray =>
    if stack.length < limit then none else some (.tooDeep (some .array))
  | some limit, .openObject =>
    if stack.length < limit then none else some (.tooDeep (some .object))
  | _, _ => none

/-- The grammar of standard JSON, with a limit for nested arrays and objects if there is one. -/
def strictDialect (limit : Option Nat) : Dialect ν := ⟨false, fun _ => none, nestingOverflow? limit⟩

/-- Reads a text in standard JSON. -/
def readStrict (numbers : NumberReader ν) (limit : Option Nat) (source : Text) :
    Except JsonError (Json ν) :=
  match source with
  | '\ufeff' :: _ => .error ⟨.byteOrderMark, 0⟩
  | _ => ofTokens (strictDialect limit) (tokens numbers source.length source) source.length

/-- Numbers as integers and binary64 numbers; infinity and NaN have names. -/
def valueNumbers : NumberReader JsonNumber where
  ofLexeme? := JsonNumber.ofLexeme?
  named := [("NaN", .float .nan), ("Infinity", .float (.infinite false)),
    ("-Infinity", .float (.infinite true))]

/-- Numbers as they are written, and none with a name. -/
def writtenNumbers : NumberReader Text where
  ofLexeme? := some
  named := []

end ColorLiteral.Json
