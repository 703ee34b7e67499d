import ColorLiteral.Token.Basic

/-!
# Expressions

The shapes of an argument that are told apart: numbers, a prefix operator on something, string
literals, and everything else.
-/

namespace ColorLiteral

/-- An argument expression: its shape, its text and where it stands. -/
inductive Expr
  | integer (text : Text) (span : Span)
  | float (text : Text) (span : Span)
  | prefixed (text : Text) (span : Span) (operator : Text) (operand : Expr)
  | string (text : Text) (span : Span) (segments : List Segment)
  | other (text : Text) (span : Span)
  deriving DecidableEq, Repr

namespace Expr

/-- The characters of an expression. -/
def text : Expr → Text
  | integer t _ | float t _ | prefixed t _ _ _ | string t _ _ | other t _ => t

/-- The place of an expression. -/
def span : Expr → Span
  | integer _ s | float _ s | prefixed _ s _ _ | string _ s _ | other _ s => s

/-- Whether an expression is a number without a sign. -/
def isNumber : Expr → Bool
  | integer _ _ | float _ _ => true
  | _ => false

/-- The pieces of a string literal; other expressions have none. -/
def segments : Expr → List Segment
  | string _ _ pieces => pieces
  | _ => []

/-- The operator of a prefixed expression. -/
def operator? : Expr → Option Text
  | prefixed _ _ o _ => some o
  | _ => none

/-- The operand of a prefixed expression. -/
def operand? : Expr → Option Expr
  | prefixed _ _ _ e => some e
  | _ => none

/-- An operator in front of an operand. A shape that lacks one of the two is none of the known
ones. -/
def ofPrefix (text : Text) (span : Span) (operator : Option Text) (operand : Option Expr) : Expr :=
  match operator, operand with
  | some o, some e => prefixed text span o e
  | _, _ => other text span

/-- The expression that is a single token. -/
def ofToken (t : Token) : Expr :=
  match t.kind with
  | .integer => integer t.text t.span
  | .float => float t.text t.span
  | .string pieces => string t.text t.span pieces
  | _ => other t.text t.span

/-- The expression that a run of tokens of a source spells. A prefix operator touches its operand,
which is one token. -/
def ofRun (source : Text) (first : Token) (rest : List Token) : Expr :=
  let last := (first :: rest).getLast (by simp)
  let span := Span.ofOffsets first.start last.stop
  let text := source.slice first.start last.stop
  match rest with
  | [] => ofToken first
  | [operand] =>
    if first.kind = .operator ∧ first.stop = operand.start then
      prefixed text span first.text (ofToken operand)
    else other text span
  | _ => other text span

end Expr

end ColorLiteral
