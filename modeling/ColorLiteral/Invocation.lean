import ColorLiteral.Expr
import ColorLiteral.Token.Lexer

/-!
# Invocations

An invocation is `#name(…)`: a name that touches its `#`, and arguments between brackets. The
arguments are separated by the commas outside all inner brackets, and each may start with a label
and a colon.
-/

namespace ColorLiteral

/-- The label of an argument. -/
structure Label where
  text : Text
  span : Span
  deriving DecidableEq, Repr

/-- An argument of an invocation. -/
structure Argument where
  label? : Option Label
  expr : Expr
  deriving DecidableEq, Repr

/-- A parsed invocation. -/
structure Invocation where
  name : Text
  nameSpan : Span
  arguments : List Argument
  deriving DecidableEq, Repr

namespace Invocation

/-! ### Runs of tokens -/

/-- The bracket that closes an opening one. -/
def closerOf? : Char → Option Char
  | '(' => some ')'
  | '[' => some ']'
  | '{' => some '}'
  | _ => none

/-- Whether a character is a closing bracket. -/
def isCloser (c : Char) : Bool := c = ')' || c = ']' || c = '}'

/-- Splits the tokens behind the opening bracket at `openAt` into the runs between top-level commas
and the tokens behind the closing bracket. The state is the brackets still to be closed, the
complete runs, and the run under way. -/
def splitRuns (openAt : Nat) (stack : List Char) (runs : List (List Token)) (run : List Token) :
    List Token → Except ParseError (List (List Token) × List Token)
  | [] => .error ⟨.missingClose, openAt⟩
  | token :: rest =>
    match token.kind with
    | .punctuation c =>
      match closerOf? c with
      | some closer => splitRuns openAt (closer :: stack) runs (run ++ [token]) rest
      | none =>
        if isCloser c then
          match stack with
          | [] =>
            if c ≠ ')' then .error ⟨.unexpectedCloser c, token.start⟩
            else if !run.isEmpty then .ok (runs ++ [run], rest)
            else if !runs.isEmpty then .error ⟨.nothingAfterComma, token.start⟩
            else .ok ([], rest)
          | closer :: stack =>
            if closer ≠ c then .error ⟨.mismatchedCloser c, token.start⟩
            else splitRuns openAt stack runs (run ++ [token]) rest
        else if c = ',' ∧ stack = [] then
          if run.isEmpty then .error ⟨.nothingBeforeComma, token.start⟩
          else splitRuns openAt stack (runs ++ [run]) [] rest
        else splitRuns openAt stack runs (run ++ [token]) rest
    | _ => splitRuns openAt stack runs (run ++ [token]) rest

/-- The argument that a run of tokens spells: a label if a name and a colon come first, and an
expression. -/
def argumentOfRun (source : Text) : List Token → Except ParseError Argument
  | [] => .ok ⟨none, .other [] ⟨0, 0⟩⟩
  | [first] => .ok ⟨none, .ofRun source first []⟩
  | first :: second :: rest =>
    if first.kind = .identifier ∧ second.kind = .punctuation ':' then
      match rest with
      | [] => .error ⟨.nothingAfterLabel first.text, second.stop⟩
      | third :: rest => .ok ⟨some ⟨first.text, first.span⟩, .ofRun source third rest⟩
    else .ok ⟨none, .ofRun source first (second :: rest)⟩

/-! ### Parsing -/

/-- The invocation that the tokens of a source spell. -/
def ofTokens (source : Text) : List Token → Except ParseError Invocation
  | hash :: name :: opener :: rest =>
    if hash.kind ≠ .punctuation '#' ∨ name.kind ≠ .identifier then
      .error ⟨.notAnInvocation, hash.start⟩
    else if name.start ≠ hash.stop then .error ⟨.nameApart, name.start⟩
    else if opener.kind ≠ .punctuation '(' then .error ⟨.missingOpen, opener.start⟩
    else do
      let (runs, trailing) ← splitRuns opener.start [] [] [] rest
      match trailing with
      | token :: _ => .error ⟨.trailingText, token.start⟩
      | [] =>
        let arguments ← runs.mapM (argumentOfRun source)
        .ok ⟨name.text, name.span, arguments⟩
  | first :: _ => .error ⟨.notAnInvocation, first.start⟩
  | [] => .error ⟨.notAnInvocation, 0⟩

/-- Parses an invocation. -/
def parse (source : Text) : Except ParseError Invocation := do
  ofTokens source (← Token.readAll source)

end Invocation

end ColorLiteral
