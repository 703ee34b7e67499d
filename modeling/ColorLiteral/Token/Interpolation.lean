import ColorLiteral.Text.Basic

/-!
# The extent of an interpolation

An interpolation in a string literal ends with the bracket that closes its opening bracket. Brackets
inside a nested string do not count, and in a nested string a backslash hides the next character.
-/

namespace ColorLiteral.Interpolation

/-- Where a scan through an interpolation stands. -/
inductive Place
  /-- Between nested strings. -/
  | code
  /-- Inside a nested string. -/
  | nested
  /-- Behind a backslash inside a nested string. -/
  | hidden
  deriving DecidableEq, Repr

/-- Puts a character in front of the first part of a split text. -/
def push (c : Char) (split : Text × Text) : Text × Text := (c :: split.1, split.2)

/-- Splits a text behind the bracket that brings the depth from one to zero. -/
def splitFrom : Place → Nat → Text → Option (Text × Text)
  | _, _, [] => none
  | .code, depth, c :: rest =>
    if c = '"' then (splitFrom .nested depth rest).map (push c)
    else if c = '(' then (splitFrom .code (depth + 1) rest).map (push c)
    else if c = ')' then
      if depth = 1 then some ([c], rest) else (splitFrom .code (depth - 1) rest).map (push c)
    else (splitFrom .code depth rest).map (push c)
  | .nested, depth, c :: rest =>
    if c = '"' then (splitFrom .code depth rest).map (push c)
    else if c = '\\' then (splitFrom .hidden depth rest).map (push c)
    else (splitFrom .nested depth rest).map (push c)
  | .hidden, depth, c :: rest => (splitFrom .nested depth rest).map (push c)

/-- Splits a text that starts with an opening bracket behind the matching one. -/
def split? (t : Text) : Option (Text × Text) := splitFrom .code 0 t

theorem map_push_eq_some {split : Option (Text × Text)} {c : Char} {first rest : Text}
    (h : split.map (push c) = some (first, rest)) :
    ∃ tail, first = c :: tail ∧ split = some (tail, rest) := by
  obtain ⟨⟨tail, _⟩, hsplit, heq⟩ := Option.map_eq_some_iff.1 h
  cases heq
  exact ⟨tail, rfl, hsplit⟩

/-- The two parts of a split make up the text, and the first one is not empty. -/
theorem append_of_splitFrom {place : Place} {depth : Nat} {t first rest : Text}
    (h : splitFrom place depth t = some (first, rest)) : first ++ rest = t ∧ first ≠ [] := by
  fun_induction splitFrom place depth t generalizing first rest with
  | case1 => simp at h
  | case4 => cases h; simp
  | _ =>
    obtain ⟨tail, rfl, htail⟩ := map_push_eq_some h
    simp_all

/-- What follows an interpolation is shorter than the text it starts. -/
theorem length_lt_of_split? {t first rest : Text} (h : split? t = some (first, rest)) :
    rest.length < t.length := by
  obtain ⟨heq, hne⟩ := append_of_splitFrom h
  have hpos := List.length_pos_iff.2 hne
  rw [← heq, List.length_append]
  omega

end ColorLiteral.Interpolation
