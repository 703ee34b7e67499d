import ColorLiteral.Outcome
import ColorLiteral.ParseError
import ColorLiteral.Text.Blank
import ColorLiteral.Token.Basic
import ColorLiteral.Token.Interpolation

/-!
# String literals

A string literal stands between quotes on one line, or between triple quotes on lines of its own.
Its pieces keep their raw text: a backslash hides the next character but both stay, except that a
backslash and `(` open an interpolation. Text in triple quotes is cut behind each line break, and
the blanks in front of the closing quotes are dropped when they fill their line.
-/

namespace ColorLiteral.StringLiteral

/-! ### Literals on one line -/

/-- What a literal holds from some place on: the text up to the next piece, the later pieces, and
what follows the closing quote. -/
structure LineBody where
  lead : Text
  later : List Segment
  rest : Text
  deriving DecidableEq, Repr

namespace LineBody

/-- The pieces, without an empty text in front. -/
def segments (b : LineBody) : List Segment :=
  if b.lead.isEmpty then b.later else .plain b.lead :: b.later

/-- Puts raw text in front. -/
def push (t : Text) (b : LineBody) : LineBody := { b with lead := t ++ b.lead }

/-- Puts an interpolation in front. -/
def pushInterpolation (t : Text) (b : LineBody) : LineBody :=
  ⟨[], .interpolation t :: b.segments, b.rest⟩

end LineBody

/-- Reads a literal on one line, from some place behind the opening quote at `start` on. -/
def readLine (start offset : Nat) : Text → Except ParseError LineBody
  | [] => .error ⟨.unterminatedString, start⟩
  | '"' :: rest => .ok ⟨[], [], rest⟩
  | '\\' :: '(' :: rest =>
    match h : Interpolation.split? ('(' :: rest) with
    | none => .error ⟨.unterminatedInterpolation, offset + 1⟩
    | some (inside, after) =>
      (readLine start (offset + 1 + inside.length) after).map (.pushInterpolation ('\\' :: inside))
  | '\\' :: c :: rest => (readLine start (offset + 2) rest).map (.push ['\\', c])
  | '\n' :: _ => .error ⟨.unterminatedString, start⟩
  | c :: rest => (readLine start (offset + 1) rest).map (.push [c])
termination_by t => t.length
decreasing_by
  · have hlt := Interpolation.length_lt_of_split? h
    simp only [List.length_cons] at *
    omega
  · simp only [List.length_cons]; omega
  · simp only [List.length_cons]; omega

/-! ### Literals in triple quotes -/

/-- What a literal in triple quotes holds from some place on. The lead is absent when it reaches
the closing quotes and is dropped with the blanks in front of them. -/
structure BlockBody where
  lead : Option Text
  later : List Segment
  rest : Text
  deriving DecidableEq, Repr

namespace BlockBody

/-- The pieces, without an empty or dropped text in front. -/
def segments (b : BlockBody) : List Segment :=
  match b.lead with
  | none | some [] => b.later
  | some lead => .plain lead :: b.later

/-- Puts raw text in front. -/
def push (t : Text) (b : BlockBody) : BlockBody := { b with lead := b.lead.map (t ++ ·) }

/-- Puts an interpolation in front. -/
def pushInterpolation (t : Text) (b : BlockBody) : BlockBody :=
  ⟨some [], .interpolation t :: b.segments, b.rest⟩

/-- Puts a line break in front, which ends a piece. -/
def pushLineBreak (b : BlockBody) : BlockBody := ⟨some ['\n'], b.segments, b.rest⟩

end BlockBody

/-- Reads a literal in triple quotes, from some place behind its opening line on. The flag says that
only blanks stand between the last line break and that place. -/
def readBlock (start offset : Nat) (blank : Bool) : Text → Except ParseError BlockBody
  | [] => .error ⟨.unterminatedString, start⟩
  | '"' :: '"' :: '"' :: rest => .ok ⟨if blank then none else some [], [], rest⟩
  | '\\' :: '(' :: rest =>
    match h : Interpolation.split? ('(' :: rest) with
    | none => .error ⟨.unterminatedInterpolation, offset + 1⟩
    | some (inside, after) =>
      (readBlock start (offset + 1 + inside.length) false after).map
        (.pushInterpolation ('\\' :: inside))
  | '\\' :: c :: rest =>
    (readBlock start (offset + 2) (c == '\n') rest).map (.push ['\\', c])
  | '\n' :: rest => (readBlock start (offset + 1) true rest).map .pushLineBreak
  | c :: rest => (readBlock start (offset + 1) (blank && Text.isBlank c) rest).map (.push [c])
termination_by t => t.length
decreasing_by
  · have hlt := Interpolation.length_lt_of_split? h
    simp only [List.length_cons] at *
    omega
  · simp only [List.length_cons]; omega
  · simp only [List.length_cons]; omega
  · simp only [List.length_cons]; omega

/-! ### Whole literals -/

/-- The pieces of a literal and what follows it. -/
abbrev Contents := List Segment × Text

/-- The contents of a literal on one line; an empty literal has one empty piece. -/
def LineBody.contents (b : LineBody) : Contents :=
  (if b.segments.isEmpty then [.plain []] else b.segments, b.rest)

/-- The contents of a literal in triple quotes. -/
def BlockBody.contents (b : BlockBody) : Contents := (b.segments, b.rest)

/-- Reads the literal that the quote at an offset opens, from behind that quote on. -/
def read (start : Nat) : Text → Except ParseError Contents
  | '"' :: '"' :: '\n' :: rest =>
    (readBlock start (start + 4) true rest).map BlockBody.contents
  | '"' :: '"' :: '\r' :: '\n' :: rest =>
    (readBlock start (start + 5) true rest).map BlockBody.contents
  | '"' :: '"' :: _ => .error ⟨.textOnOpeningLine, start⟩
  | t => (readLine start (start + 1) t).map LineBody.contents

/-! ### What is left -/

/-- What is left of a text: a part at its end, and not the whole of it. -/
def IsRestOf (rest t : Text) : Prop := rest <:+ t ∧ rest.length < t.length

theorem isRestOf_cons (c : Char) (t : Text) : IsRestOf t (c :: t) :=
  ⟨List.suffix_cons c t, by simp⟩

theorem IsRestOf.trans {r s t : Text} (h₁ : IsRestOf r s) (h₂ : IsRestOf s t) : IsRestOf r t :=
  ⟨h₁.1.trans h₂.1, Nat.lt_trans h₁.2 h₂.2⟩

theorem IsRestOf.cons {r t : Text} (h : IsRestOf r t) (c : Char) : IsRestOf r (c :: t) :=
  h.trans (isRestOf_cons c t)

theorem isRestOf_of_split? {t inside after : Text}
    (h : Interpolation.split? t = some (inside, after)) : IsRestOf after t :=
  ⟨⟨inside, (Interpolation.append_of_splitFrom h).1⟩, Interpolation.length_lt_of_split? h⟩

theorem isRestOf_of_readLine {start offset : Nat} {t : Text} {b : LineBody}
    (h : readLine start offset t = .ok b) : IsRestOf b.rest t := by
  fun_induction readLine start offset t generalizing b with
  | case1 | case3 | case6 => cases h
  | case2 => cases h; exact isRestOf_cons _ _
  | case4 offset rest inside after hsplit ih =>
    obtain ⟨body, hbody, rfl⟩ := Outcome.exists_of_map_eq_ok h
    exact ((ih hbody).trans (isRestOf_of_split? hsplit)).cons _
  | case5 offset c rest _ ih =>
    obtain ⟨body, hbody, rfl⟩ := Outcome.exists_of_map_eq_ok h
    exact ((ih hbody).cons _).cons _
  | case7 offset c rest _ _ _ _ ih =>
    obtain ⟨body, hbody, rfl⟩ := Outcome.exists_of_map_eq_ok h
    exact (ih hbody).cons _

theorem isRestOf_of_readBlock {start offset : Nat} {blank : Bool} {t : Text} {b : BlockBody}
    (h : readBlock start offset blank t = .ok b) : IsRestOf b.rest t := by
  fun_induction readBlock start offset blank t generalizing b with
  | case1 | case3 => cases h
  | case2 => cases h; exact ((isRestOf_cons _ _).cons _).cons _
  | case4 offset _ rest inside after hsplit ih =>
    obtain ⟨body, hbody, rfl⟩ := Outcome.exists_of_map_eq_ok h
    exact ((ih hbody).trans (isRestOf_of_split? hsplit)).cons _
  | case5 offset _ c rest _ ih =>
    obtain ⟨body, hbody, rfl⟩ := Outcome.exists_of_map_eq_ok h
    exact ((ih hbody).cons _).cons _
  | case6 offset _ rest ih =>
    obtain ⟨body, hbody, rfl⟩ := Outcome.exists_of_map_eq_ok h
    exact (ih hbody).cons _
  | case7 offset _ c rest _ _ _ _ ih =>
    obtain ⟨body, hbody, rfl⟩ := Outcome.exists_of_map_eq_ok h
    exact (ih hbody).cons _

/-- What follows a literal is at the end of the text, and shorter. -/
theorem isRestOf_of_read {start : Nat} {t : Text} {contents : Contents}
    (h : read start t = .ok contents) : IsRestOf contents.2 t := by
  fun_cases read start t with
  | case1 rest =>
    obtain ⟨body, hbody, rfl⟩ := Outcome.exists_of_map_eq_ok h
    exact (((isRestOf_of_readBlock hbody).cons _).cons _).cons _
  | case2 rest =>
    obtain ⟨body, hbody, rfl⟩ := Outcome.exists_of_map_eq_ok h
    exact ((((isRestOf_of_readBlock hbody).cons _).cons _).cons _).cons _
  | case3 rest hne₁ hne₂ =>
    rw [read] at h
    · cases h
    all_goals assumption
  | case4 _ hne₁ hne₂ hne₃ =>
    rw [read] at h
    · obtain ⟨body, hbody, rfl⟩ := Outcome.exists_of_map_eq_ok h
      exact isRestOf_of_readLine hbody
    all_goals assumption

end ColorLiteral.StringLiteral
