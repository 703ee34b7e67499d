import ColorLiteral.Json.Strict
import ColorLiteral.Text.Letter

/-!
# Relaxed JSON

Reading of JSON with the comforts of hand-written settings: comments, commas behind the last item,
names and single quotes around keys and strings, line continuations, and more ways to write numbers.
Of a text that is refused, all that is said is whether it is nested too deeply.
-/

namespace ColorLiteral.Json.Relaxed

/-- Whether a character ends a line. -/
def isLineEnd (c : Char) : Bool := c = '\n' || c = '\r' || c = '\u2028' || c = '\u2029'

/-- Whether a character separates tokens. -/
def isBlank (c : Char) : Bool :=
  isLineEnd c || c = '\t' || c = '\x0b' || c = '\x0c' || c = '\ufeff' || Text.isSpaceSeparator c

/-! ### Comments -/

/-- What follows a comment that ends with `*/`. -/
def afterBlockComment : Text → Option Text
  | [] => none
  | '*' :: '/' :: rest => some rest
  | _ :: rest => afterBlockComment rest

theorem length_lt_of_afterBlockComment {t rest : Text} (h : afterBlockComment t = some rest) :
    rest.length < t.length := by
  fun_induction afterBlockComment t with
  | case1 => cases h
  | case2 => cases h; simp only [List.length_cons]; omega
  | case3 c t _ ih => have := ih h; simp only [List.length_cons]; omega

/-! ### Strings -/

/-- The character that a backslash and a character stand for; a digit stands for none. -/
def escape? (c : Char) : Option Char :=
  match c with
  | 'b' => some '\x08'
  | 'f' => some '\x0c'
  | 'n' => some '\n'
  | 'r' => some '\r'
  | 't' => some '\t'
  | 'v' => some '\x0b'
  | c => if c.isDigit then none else some c

/-- Reads a string from behind its opening quote: the characters and what follows the closing
quote. -/
def readString? (quote : Char) : Text → Option (Text × Text)
  | [] => none
  | '\\' :: '\r' :: '\n' :: rest => readString? quote rest
  | '\\' :: 'x' :: a :: b :: rest =>
    match hexValue? [a, b] with
    | none => none
    | some unit => (readString? quote rest).map (pushChar (Char.ofNat unit))
  | '\\' :: 'x' :: _ => none
  | '\\' :: 'u' :: rest =>
    match _h : readUnit? rest with
    | none => none
    | some (c, after) => (readString? quote after).map (pushChar c)
  | ['\\', '0'] => none
  | '\\' :: '0' :: c :: rest =>
    if c.isDigit then none
    else (readString? quote (c :: rest)).map (pushChar '\x00')
  | '\\' :: c :: rest =>
    if isLineEnd c then readString? quote rest
    else match escape? c with
      | none => none
      | some e => (readString? quote rest).map (pushChar e)
  | c :: rest =>
    if c = quote then some ([], rest)
    else if c = '\n' || c = '\r' then none
    else (readString? quote rest).map (pushChar c)
termination_by t => t.length
decreasing_by
  · simp only [List.length_cons]; omega
  · simp only [List.length_cons]; omega
  · have := length_lt_of_readUnit? ‹_›
    simp only [List.length_cons]
    omega
  · simp only [List.length_cons]; omega
  · simp only [List.length_cons]; omega
  · simp only [List.length_cons]; omega
  · simp only [List.length_cons]; omega

/-! ### Names -/

/-- The name at the start of a text and what follows it. An escape of four digits may stand for any
character, also for one that no name contains otherwise. -/
def readName (mayStart : Bool) : Text → Text × Text
  | '\\' :: 'u' :: rest =>
    match _h : readUnit? rest with
    | none => ([], '\\' :: 'u' :: rest)
    | some (c, after) =>
      let (name, after) := readName false after
      (c :: name, after)
  | c :: rest =>
    if if mayStart then Text.startsName c else Text.continuesName c then
      let (name, after) := readName false rest
      (c :: name, after)
    else ([], c :: rest)
  | [] => ([], [])
termination_by t => t.length
decreasing_by
  · have := length_lt_of_readUnit? ‹_›
    simp only [List.length_cons]
    omega
  · simp

/-- The values that are written as names. -/
def named : Text → Option (Json JsonNumber) := fun name =>
  (namedValues valueNumbers).lookup name

/-! ### Numbers -/

/-- The decimal number at the start of a text: a side of the point may be empty. -/
def decimalLexeme (t : Text) : Text :=
  let whole := wholeDigits t
  let fraction : Text := match t.drop whole.length with
    | '.' :: rest => '.' :: rest.takeWhile Char.isDigit
    | _ => []
  if whole.isEmpty && fraction.length < 2 then []
  else
    let rest := t.drop (whole.length + fraction.length)
    whole ++ fraction ++ exponentDigits rest

/-- The number without sign at the start of a text, with its number of characters; no number if it
has too many digits. -/
def unsigned? (negative : Bool) (t : Text) : Option (Option JsonNumber × Nat) :=
  match t with
  | '0' :: x :: rest =>
    let digits := rest.takeWhile isHexDigit
    if (x = 'x' || x = 'X') && !digits.isEmpty then
      let value := Text.valueInBase 16 (digits.filterMap nibble?)
      some (some (.integer (if negative then -(value : Int) else value)), digits.length + 2)
    else decimal t
  | t => decimal t
where
  /-- The decimal number at the start of a text. -/
  decimal (t : Text) : Option (Option JsonNumber × Nat) :=
    let lexeme := decimalLexeme t
    if lexeme.isEmpty then none
    else if lexeme.all Char.isDigit then
      some (JsonNumber.integerOfDigits? negative lexeme, lexeme.length)
    else
      some ((Binary64.ofUnsignedText? negative lexeme).map .float, lexeme.length)

/-- A named number behind a sign. -/
def signedName? (negative : Bool) (t : Text) : Option (Option JsonNumber × Nat) :=
  if "Infinity".toList.isPrefixOf t then some (some (.float (.infinite negative)), 8)
  else if "NaN".toList.isPrefixOf t then some (some (.float .nan), 3)
  else none

/-- The number at the start of a text, perhaps with a sign. -/
def number? : Text → Option (Option JsonNumber × Nat)
  | '-' :: t => ((unsigned? true t).or (signedName? true t)).map fun (x, n) => (x, n + 1)
  | '+' :: t => ((unsigned? false t).or (signedName? false t)).map fun (x, n) => (x, n + 1)
  | t => unsigned? false t

/-! ### Tokens -/

/-- The token of a number as it is written. -/
def numberToken (lexeme : Text) : Option JsonNumber → JsonToken JsonNumber
  | some x => .scalar (.number x)
  | none => .badNumber (lexeme.countP Char.isDigit)

/-- The token of a name that takes up a number of characters: more than it has if there is an escape
in it. -/
def nameToken (size : Nat) (name : Text) : JsonToken JsonNumber :=
  if size = name.length then .name name else .escapedName name

theorem exists_of_map_pushChar {c : Char} {read : Option (Text × Text)} {content after : Text}
    (h : read.map (pushChar c) = some (content, after)) : ∃ t, read = some (t, after) := by
  obtain ⟨⟨t, _⟩, hread, heq⟩ := Option.map_eq_some_iff.1 h
  cases heq
  exact ⟨t, hread⟩

/-- What follows a string is shorter than the text it starts. -/
theorem length_lt_of_readString? {quote : Char} {t content after : Text}
    (h : readString? quote t = some (content, after)) : after.length < t.length := by
  fun_induction readString? quote t generalizing content after with
  | case1 | case3 | case5 | case6 | case8 | case9 | case12 | case15 => cases h
  | case2 rest ih | case11 c rest _ _ _ _ _ _ _ ih =>
    have := ih h
    simp only [List.length_cons]
    omega
  | case4 a b rest unit _ ih | case10 c rest _ ih | case13 c rest _ _ _ _ _ _ _ e _ ih
  | case16 c rest _ _ _ _ _ _ _ _ _ ih =>
    obtain ⟨t, ht⟩ := exists_of_map_pushChar h
    have := ih ht
    simp only [List.length_cons] at *
    omega
  | case7 rest c following hunit ih =>
    obtain ⟨t, ht⟩ := exists_of_map_pushChar h
    have := ih ht
    have := length_lt_of_readUnit? hunit
    simp only [List.length_cons]
    omega
  | case14 => cases h; simp

/-- A name and what follows it are together no longer than the text. -/
theorem length_readName (mayStart : Bool) (t : Text) :
    (readName mayStart t).2.length + (readName mayStart t).1.length ≤ t.length := by
  fun_induction readName mayStart t with
  | case2 _ rest c following hunit name after hname ih =>
    have := length_lt_of_readUnit? hunit
    simp only [hname] at ih
    simp only [List.length_cons]
    omega
  | case3 _ c rest _ _ name after hname ih =>
    simp only [hname] at ih
    simp only [List.length_cons]
    omega
  | case1 | case4 | case5 => simp

/-- The tokens of a text, up to characters that start none. -/
def tokens : Text → List (JsonToken JsonNumber)
  | [] => []
  | '/' :: '/' :: rest => tokens (rest.dropWhile fun c => !isLineEnd c)
  | '/' :: '*' :: rest =>
    match _h : afterBlockComment rest with
    | none => [.unknown]
    | some after => tokens after
  | c :: rest =>
    if isBlank c then tokens rest
    else if c = '"' || c = '\'' then
      match _h : readString? c rest with
      | none => [.unknown]
      | some (content, after) => .string content :: tokens after
    else match punctuation? c with
      | some token => token :: tokens rest
      | none =>
        match number? (c :: rest) with
        | some (x, size) =>
          numberToken ((c :: rest).take size) x :: tokens (rest.drop (size - 1))
        | none =>
          match _h : readName true (c :: rest) with
          | ([], _) => [.unknown]
          | (d :: name, after) =>
            nameToken (rest.length + 1 - after.length) (d :: name) :: tokens after
termination_by t => t.length
decreasing_by
  · have := (List.dropWhile_suffix (l := rest) fun c => !isLineEnd c).length_le
    simp only [List.length_cons]
    omega
  · have := length_lt_of_afterBlockComment ‹_›
    simp only [List.length_cons]
    omega
  · simp
  · exact Nat.lt_succ_of_lt (length_lt_of_readString? ‹_›)
  · simp
  · simp only [List.length_drop, List.length_cons]; omega
  · have hname := length_readName true (c :: rest)
    simp only [‹readName true (c :: rest) = _›, List.length_cons] at hname ⊢
    omega

/-! ### Depth -/

/-- The places that the way to a value takes up in an array or object around it. The way is longer
in an object, and longer behind a comma. -/
def weight : Frame JsonNumber → Nat
  | .item [] => 16
  | .item (_ :: _) => 22
  | .member [] _ => 22
  | .member (_ :: _) _ => 28

/-- The places that the way to a value and the value itself may take up together. -/
def room : Nat := 988

/-- The places that the first token of a value takes up. -/
def ownWeight : JsonToken JsonNumber → Nat
  | .openArray | .openObject => 47
  | _ => 33

/-- The fault of a token that starts a value for which there is no room. -/
def roomOverflow? (stack : List (Frame JsonNumber)) (token : JsonToken JsonNumber) :
    Option JsonFault :=
  let taken := stack.foldl (fun taken frame => taken + weight frame) 0
  if taken + ownWeight token ≤ room then none else some (.tooDeep none)

/-! ### Documents -/

/-- The grammar of relaxed JSON. -/
def dialect : Dialect JsonNumber := ⟨true, named, roomOverflow?⟩

/-- Reads a text in relaxed JSON. -/
def read (source : Text) : Except JsonFault (Json JsonNumber) :=
  (ofTokens dialect ((tokens source).map fun token => (token, 0)) 0).mapError JsonError.fault

end ColorLiteral.Json.Relaxed
