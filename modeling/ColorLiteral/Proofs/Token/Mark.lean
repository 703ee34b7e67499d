import ColorLiteral.Outcome
import ColorLiteral.Token.StringLiteral

/-!
# The marks of a literal

A literal is read mark by mark: an interpolation, a character that a backslash hides, a line break,
or any other character (`Mark`). A text is read in one way only (`IsReadAs.unique`). The body of a
literal in triple quotes is what its marks make up, put in front of the closing quotes from the last
one to the first (`assemble`).
-/

namespace ColorLiteral

/-! ### Where an interpolation ends -/

namespace Interpolation

/-- How a text is split does not hang on what follows its first part. -/
theorem splitFrom_append {place : Place} {depth : Nat} {t first rest : Text}
    (h : splitFrom place depth t = some (first, rest)) (u : Text) :
    splitFrom place depth (first ++ u) = some (first, u) := by
  fun_induction splitFrom place depth t generalizing first rest with
  | case1 => simp at h
  | case4 => cases h; simp [splitFrom]
  | _ =>
    obtain ⟨tail, rfl, htail⟩ := map_push_eq_some h
    simp_all [splitFrom, push]

/-- The first part of a split ends with a closing bracket. -/
theorem exists_eq_concat_of_splitFrom {place : Place} {depth : Nat} {t first rest : Text}
    (h : splitFrom place depth t = some (first, rest)) : ∃ inside, first = inside ++ [')'] := by
  fun_induction splitFrom place depth t generalizing first rest with
  | case1 => simp at h
  | case4 => cases h; exact ⟨[], by simp_all⟩
  | _ =>
    obtain ⟨tail, rfl, htail⟩ := map_push_eq_some h
    rename_i ih
    obtain ⟨inside, rfl⟩ := ih htail
    exact ⟨_ :: inside, rfl⟩

end Interpolation

namespace StringLiteral

/-! ### Marks -/

/-- What a literal is read as, bit by bit. -/
inductive Mark
  /-- An interpolation, by the text behind its opening bracket. -/
  | interpolation (inside : Text)
  /-- A character that a backslash hides. -/
  | hidden (c : Char)
  /-- A line break. -/
  | lineBreak
  /-- Any other character. -/
  | plain (c : Char)
  deriving DecidableEq, Repr

namespace Mark

/-- The characters of a mark. -/
def text : Mark → Text
  | .interpolation inside => '\\' :: '(' :: inside
  | .hidden c => ['\\', c]
  | .lineBreak => ['\n']
  | .plain c => [c]

/-- Whether the characters of a mark are read as this mark. -/
def IsWellFormed : Mark → Prop
  | .interpolation inside => Interpolation.split? ('(' :: inside) = some ('(' :: inside, [])
  | .hidden c => c ≠ '('
  | .lineBreak => True
  | .plain c => c ≠ '\\' ∧ c ≠ '\n'

theorem text_ne_nil (m : Mark) : m.text ≠ [] := by
  cases m <;> simp [text]

/-- Marks whose texts start alike are the same, with the same text behind them. -/
theorem eq_of_append_eq {m₁ m₂ : Mark} {u₁ u₂ : Text} (h₁ : m₁.IsWellFormed)
    (h₂ : m₂.IsWellFormed) (h : m₁.text ++ u₁ = m₂.text ++ u₂) : m₁ = m₂ ∧ u₁ = u₂ := by
  cases m₁ with
  | interpolation i₁ =>
    cases m₂ with
    | interpolation i₂ =>
      have hinside : ('(' :: i₁) ++ u₁ = ('(' :: i₂) ++ u₂ := (List.cons.inj h).2
      have hsplit := Interpolation.splitFrom_append h₁ u₁
      rw [hinside, Interpolation.splitFrom_append h₂ u₂] at hsplit
      cases hsplit
      exact ⟨rfl, rfl⟩
    | _ => simp_all [text, IsWellFormed, eq_comm]
  | _ => cases m₂ <;> simp_all [text, IsWellFormed, eq_comm]

end Mark

/-- The text of some marks. -/
def textOf (marks : List Mark) : Text := marks.flatMap Mark.text

@[simp] theorem textOf_nil : textOf [] = [] := rfl

@[simp] theorem textOf_cons (mark : Mark) (marks : List Mark) :
    textOf (mark :: marks) = mark.text ++ textOf marks := rfl

/-- A text is read as some marks. -/
def IsReadAs (content : Text) (marks : List Mark) : Prop :=
  content = textOf marks ∧ ∀ mark ∈ marks, mark.IsWellFormed

/-- A text is read in one way only. -/
theorem IsReadAs.unique {content : Text} {marks₁ marks₂ : List Mark}
    (h₁ : IsReadAs content marks₁) (h₂ : IsReadAs content marks₂) : marks₁ = marks₂ := by
  obtain ⟨rfl, hwell₁⟩ := h₁
  obtain ⟨heq, hwell₂⟩ := h₂
  induction marks₁ generalizing marks₂ with
  | nil =>
    cases marks₂ with
    | nil => rfl
    | cons m ms => simp [m.text_ne_nil] at heq
  | cons m₁ ms₁ ih =>
    cases marks₂ with
    | nil => simp [m₁.text_ne_nil] at heq
    | cons m₂ ms₂ =>
      rw [List.forall_mem_cons] at hwell₁ hwell₂
      obtain ⟨rfl, htexts⟩ := Mark.eq_of_append_eq hwell₁.1 hwell₂.1 heq
      rw [ih hwell₁.2 htexts hwell₂.2]

/-! ### Bodies by their marks -/

/-- The body that some marks in front of the closing quotes make up. The flag says that only blanks
stand between the last line break and the first mark. -/
def assemble (blank : Bool) (rest : Text) : List Mark → BlockBody
  | [] => ⟨if blank then none else some [], [], rest⟩
  | .interpolation inside :: marks =>
    (assemble false rest marks).pushInterpolation ('\\' :: '(' :: inside)
  | .hidden c :: marks => (assemble (c == '\n') rest marks).push ['\\', c]
  | .lineBreak :: marks => (assemble true rest marks).pushLineBreak
  | .plain c :: marks => (assemble (blank && Text.isBlank c) rest marks).push [c]

end StringLiteral

end ColorLiteral
