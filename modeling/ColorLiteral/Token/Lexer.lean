import ColorLiteral.Text.Digit
import ColorLiteral.Token.StringLiteral

/-!
# From text to tokens

The tokens of a text, separated by blanks or by nothing. Outside string literals a token is the
longest number, name or run of operator characters at its place, or else a single character.
-/

namespace ColorLiteral

namespace Lexeme

/-! ### Numbers -/

/-- The digits of an integer in base 16, 2 or 8, by the letter behind its leading zero. -/
def isPrefixedDigit : Char → Option (Char → Bool)
  | 'x' => some fun c => c.isDigit || ('a' ≤ c && c ≤ 'f') || ('A' ≤ c && c ≤ 'F') || c = '_'
  | 'b' => some fun c => c = '0' || c = '1' || c = '_'
  | 'o' => some fun c => ('0' ≤ c && c ≤ '7') || c = '_'
  | _ => none

/-- The integer in base 16, 2 or 8 at the start of a text, empty if there is none. -/
def prefixedInteger : Text → Text
  | '0' :: base :: rest =>
    match isPrefixedDigit base with
    | none => []
    | some isDigit =>
      let digits := rest.takeWhile isDigit
      if digits.isEmpty then [] else '0' :: base :: digits
  | _ => []

/-- The digits at the start of a text: a digit, then digits and underscores. -/
def digits : Text → Text
  | [] => []
  | c :: rest =>
    if Text.isDecimalDigit c then c :: rest.takeWhile (fun d => Text.isDecimalDigit d || d = '_')
    else []

/-- The fraction at the start of a text: a point and digits. -/
def fraction : Text → Text
  | '.' :: rest => if (digits rest).isEmpty then [] else '.' :: digits rest
  | _ => []

/-- The sign at the start of a text. -/
def sign : Text → Text
  | '+' :: _ => ['+']
  | '-' :: _ => ['-']
  | _ => []

/-- The exponent at the start of a text: the letter, perhaps a sign, and digits. -/
def exponent : Text → Text
  | [] => []
  | c :: rest =>
    if c = 'e' || c = 'E' then
      let power := digits (rest.drop (sign rest).length)
      if power.isEmpty then [] else c :: sign rest ++ power
    else []

/-- The decimal number at the start of a text; it is a float when it has a fraction or an
exponent. -/
def decimal (t : Text) : TokenKind × Text :=
  let whole := digits t
  let rest := t.drop whole.length
  let part := fraction rest
  let power := exponent (rest.drop part.length)
  (if part.isEmpty && power.isEmpty then .integer else .float, whole ++ part ++ power)

/-! ### Names and operators -/

/-- Whether a character may start a name. -/
def startsIdentifier (c : Char) : Bool := c.isAlpha || c = '_'

/-- Whether a character may go on in a name. -/
def continuesIdentifier (c : Char) : Bool := c.isAlphanum || c = '_'

/-- Whether operators are made of a character. -/
def isOperatorChar (c : Char) : Bool := "-+*/%=<>!&|^~?.".toList.contains c

/-- The kind and the characters of the token that starts with a character other than a quote. -/
def plain (c : Char) (rest : Text) : TokenKind × Text :=
  if !(prefixedInteger (c :: rest)).isEmpty then (.integer, prefixedInteger (c :: rest))
  else if Text.isDecimalDigit c then decimal (c :: rest)
  else if startsIdentifier c then (.identifier, c :: rest.takeWhile continuesIdentifier)
  else if isOperatorChar c then (.operator, c :: rest.takeWhile isOperatorChar)
  else (.punctuation c, [c])

theorem plain_ne_nil (c : Char) (rest : Text) : (plain c rest).2 ≠ [] := by
  unfold plain
  split
  · simp_all
  · split
    · rename_i hdigit
      simp [decimal, digits, hdigit]
    · split
      · simp
      · split <;> simp

end Lexeme

namespace Token

/-- Reads the token that starts with a character, and returns it with what follows. -/
def read (start : Nat) (c : Char) (rest : Text) : Except ParseError (Token × Text) :=
  if c = '"' then
    (StringLiteral.read start rest).map fun (segments, after) =>
      (⟨.string segments, (c :: rest).take (rest.length + 1 - after.length), start⟩, after)
  else
    let lexeme := Lexeme.plain c rest
    .ok (⟨lexeme.1, lexeme.2, start⟩, (c :: rest).drop lexeme.2.length)

theorem length_lt_of_read {start : Nat} {c : Char} {rest : Text} {token : Token} {after : Text}
    (h : read start c rest = .ok (token, after)) : after.length < (c :: rest).length := by
  unfold read at h
  split at h
  · obtain ⟨contents, hread, heq⟩ := Outcome.exists_of_map_eq_ok h
    cases heq
    have := (StringLiteral.isRestOf_of_read hread).2
    simp only [List.length_cons]
    omega
  · cases h
    have := List.length_pos_iff.2 (Lexeme.plain_ne_nil c rest)
    simp only [List.length_drop, List.length_cons]
    omega

/-- The tokens of a text whose first character has a given offset. -/
def readAllFrom (offset : Nat) : Text → Except ParseError (List Token)
  | [] => .ok []
  | c :: rest =>
    if Text.isBlank c then readAllFrom (offset + 1) rest
    else
      match _h : read offset c rest with
      | .error e => .error e
      | .ok (token, after) => (readAllFrom token.stop after).map (token :: ·)
termination_by t => t.length
decreasing_by
  · simp
  · exact length_lt_of_read ‹_›

/-- The tokens of a text. -/
def readAll (source : Text) : Except ParseError (List Token) := readAllFrom 0 source

end Token

end ColorLiteral
