import ColorLiteral.Proofs.Token.StringExtent

/-!
# Where the marks of a literal stop

Behind its opening a literal is read mark by mark, on one line as in triple quotes. Every text is
made of marks up to a place where none can be read (`isMarkedUp`): the closing quotes stand there, or
the literal cannot go on. Reading goes through the marks one by one (`readLine_marks`,
`readBlock_marks`), so what stands at that place decides on the literal (`readLine_eq_ok_iff` and
`readLine_eq_error_iff`, and the same for triple quotes).
-/

namespace ColorLiteral.StringLiteral

/-! ### Forms of literals -/

/-- The two forms of literals. -/
inductive LiteralForm
  | line
  | block

namespace LiteralForm

/-- The closing quotes. -/
def closing : LiteralForm → Text
  | line => ['"']
  | block => ['"', '"', '"']

/-- Some marks stand in a literal, in front of a text: the closing quotes are at none of the places
where a mark is read, and neither is a line break in a literal on one line. -/
def Holds (form : LiteralForm) : List Mark → Text → Prop
  | [], _ => True
  | m :: marks, behind =>
    m.IsWellFormed ∧ ¬ form.closing <+: m.text ++ (textOf marks ++ behind) ∧
      (form = line → m ≠ .lineBreak) ∧ form.Holds marks behind

/-- What stands where a literal breaks off: nothing, or a backslash with nothing behind it, or on
one line a line break. -/
def BreaksOff (form : LiteralForm) (t : Text) : Prop :=
  t = [] ∨ t = ['\\'] ∨ form = line ∧ ∃ after, t = '\n' :: after

theorem Holds.isWellFormed {form : LiteralForm} {marks : List Mark} {behind : Text}
    (h : form.Holds marks behind) : ∀ m ∈ marks, m.IsWellFormed := by
  induction marks with
  | nil => exact List.forall_mem_nil _
  | cons m marks ih => exact List.forall_mem_cons.2 ⟨h.1, ih h.2.2.2⟩

end LiteralForm

/-- What stands at an offset where a literal cannot go on, and how that is reported. -/
inductive DeadEnd (form : LiteralForm) (start offset : Nat) : Text → ParseError → Prop
  | breaksOff {t : Text} (h : form.BreaksOff t) :
      DeadEnd form start offset t ⟨.unterminatedString, start⟩
  | unclosed {inside : Text} (h : Interpolation.split? ('(' :: inside) = none) :
      DeadEnd form start offset ('\\' :: '(' :: inside) ⟨.unterminatedInterpolation, offset + 1⟩

variable {form : LiteralForm} {start offset : Nat} {blank : Bool} {t : Text} {m : Mark}
  {marks : List Mark} {e : ParseError}

/-! ### Marks up to a stop -/

/-- A text is made of the marks of a literal up to its closing quotes or to a dead end. -/
def IsMarkedUp (form : LiteralForm) (start offset : Nat) (t : Text) : Prop :=
  ∃ marks stop, t = textOf marks ++ stop ∧ form.Holds marks stop ∧
    ((∃ after, stop = form.closing ++ after) ∨
      ∃ e, DeadEnd form start (offset + (textOf marks).length) stop e)

theorem DeadEnd.isMarkedUp (h : DeadEnd form start offset t e) : IsMarkedUp form start offset t :=
  ⟨[], t, rfl, trivial, .inr ⟨e, h⟩⟩

theorem IsMarkedUp.cons (hm : m.IsWellFormed) (hclosing : ¬ form.closing <+: m.text ++ t)
    (hbreak : form = .line → m ≠ .lineBreak)
    (h : IsMarkedUp form start (offset + m.text.length) t) :
    IsMarkedUp form start offset (m.text ++ t) := by
  obtain ⟨marks, stop, rfl, hmarks, hstop⟩ := h
  refine ⟨m :: marks, stop, by simp, ⟨hm, hclosing, hbreak, hmarks⟩, ?_⟩
  rwa [textOf_cons, List.length_append, ← Nat.add_assoc]

/-- An interpolation that ends is a mark. -/
theorem exists_mark_of_split? {rest first behind : Text}
    (h : Interpolation.split? ('(' :: rest) = some (first, behind)) :
    ∃ inside, first = '(' :: inside ∧ (Mark.interpolation inside).IsWellFormed ∧
      '\\' :: '(' :: rest = (Mark.interpolation inside).text ++ behind := by
  obtain ⟨inside, rfl, -⟩ := Interpolation.map_push_eq_some h
  have hself := Interpolation.splitFrom_append h []
  rw [List.append_nil] at hself
  exact ⟨inside, rfl, hself, congrArg ('\\' :: ·) (Interpolation.append_of_splitFrom h).1.symm⟩

/-- Every text is made of marks up to a place where none can be read. -/
theorem isMarkedUp (form : LiteralForm) (start offset : Nat) (t : Text) :
    IsMarkedUp form start offset t := by
  -- the closing quotes come first, as in the reader: a quote alone is a mark in triple quotes
  by_cases hclosing : form.closing <+: t
  · obtain ⟨after, rfl⟩ := hclosing
    exact ⟨[], _, rfl, trivial, .inl ⟨after, rfl⟩⟩
  cases t with
  | nil => exact (DeadEnd.breaksOff (.inl rfl)).isMarkedUp
  | cons c rest =>
    by_cases hback : c = '\\'
    · subst hback
      cases rest with
      | nil => exact (DeadEnd.breaksOff (.inr (.inl rfl))).isMarkedUp
      | cons d rest =>
        by_cases hopen : d = '('
        · subst hopen
          cases hsplit : Interpolation.split? ('(' :: rest) with
          | none => exact (DeadEnd.unclosed hsplit).isMarkedUp
          | some parts =>
            have hlt := Interpolation.length_lt_of_split? hsplit
            obtain ⟨inside, -, hm, htext⟩ := exists_mark_of_split? hsplit
            rw [htext] at hclosing ⊢
            exact .cons hm hclosing nofun (isMarkedUp form start _ parts.2)
        · exact .cons (m := .hidden d) hopen hclosing nofun (isMarkedUp form start _ rest)
    · by_cases hbreak : c = '\n'
      · subst hbreak
        cases form with
        | line => exact (DeadEnd.breaksOff (.inr (.inr ⟨rfl, rest, rfl⟩))).isMarkedUp
        | block =>
          exact .cons (m := .lineBreak) trivial hclosing nofun (isMarkedUp .block start _ rest)
      · exact .cons (m := .plain c) ⟨hback, hbreak⟩ hclosing nofun (isMarkedUp form start _ rest)
termination_by t.length
decreasing_by all_goals simp only [List.length_cons] at *; omega

/-! ### Reading on one line -/

namespace LineBody

/-- Puts a mark in front. -/
def pushMark (m : Mark) (b : LineBody) : LineBody :=
  match m with
  | .interpolation _ => b.pushInterpolation m.text
  | _ => b.push m.text

def pushMarks (marks : List Mark) (b : LineBody) : LineBody := marks.foldr pushMark b

theorem pushMarks_cons (m : Mark) (marks : List Mark) (b : LineBody) :
    pushMarks (m :: marks) b = (pushMarks marks b).pushMark m := rfl

end LineBody

theorem readLine_mark (hm : m.IsWellFormed) (hclosing : ¬ ['"'] <+: m.text ++ t)
    (hbreak : m ≠ .lineBreak) :
    readLine start offset (m.text ++ t) =
      (readLine start (offset + m.text.length) t).map (.pushMark m) := by
  cases m with
  | interpolation inside =>
    have hsplit : Interpolation.split? ('(' :: (inside ++ t)) = some ('(' :: inside, t) :=
      Interpolation.splitFrom_append hm t
    have hoffset : offset + 1 + ('(' :: inside).length =
        offset + (Mark.interpolation inside).text.length := by
      simp only [Mark.text, List.length_cons]
      omega
    rw [← hoffset]
    exact readLine_interpolation hsplit
  | hidden c => exact readLine.eq_4 _ _ _ _ hm
  | lineBreak => exact absurd rfl hbreak
  | plain c =>
    have hquote : c ≠ '"' := by
      rintro rfl
      exact hclosing ⟨t, rfl⟩
    exact readLine_plain _ _ _ hquote hm.1 hm.2

/-- On one line marks are read one by one, and what follows them is read behind them. -/
theorem readLine_marks (hmarks : LiteralForm.line.Holds marks t) :
    readLine start offset (textOf marks ++ t) =
      (readLine start (offset + (textOf marks).length) t).map (.pushMarks marks) := by
  induction marks generalizing offset with
  | nil => cases h : readLine start offset t <;> simp [h, Except.map, LineBody.pushMarks]
  | cons m marks ih =>
    obtain ⟨hm, hclosing, hbreak, hmarks⟩ := hmarks
    rw [textOf_cons, List.append_assoc, readLine_mark hm hclosing (hbreak rfl), ih hmarks,
      List.length_append, ← Nat.add_assoc]
    cases readLine start (offset + m.text.length + (textOf marks).length) t <;> rfl

theorem DeadEnd.readLine_eq (h : DeadEnd .line start offset t e) :
    readLine start offset t = .error e := by
  cases h with
  | breaksOff h =>
    obtain rfl | rfl | ⟨-, after, rfl⟩ := h
    · rw [readLine]
    · rw [readLine, readLine]
      · rfl
      all_goals simp
    · rw [readLine]
  | unclosed h =>
    rw [readLine]
    split
    · rfl
    · next hsome => rw [h] at hsome; cases hsome

/-- A literal on one line is read when its marks end at a quote. -/
theorem readLine_eq_ok_iff {b : LineBody} : readLine start offset t = .ok b ↔
    ∃ marks after, t = textOf marks ++ '"' :: after ∧
      LiteralForm.line.Holds marks ('"' :: after) ∧ b = .pushMarks marks ⟨[], [], after⟩ := by
  constructor
  · intro h
    obtain ⟨marks, stop, rfl, hmarks, ⟨after, rfl⟩ | ⟨e, hstop⟩⟩ := isMarkedUp .line start offset t
    · refine ⟨marks, after, rfl, hmarks, ?_⟩
      rw [readLine_marks hmarks, LiteralForm.closing, List.singleton_append, readLine] at h
      exact (Except.ok.inj h).symm
    · rw [readLine_marks hmarks, hstop.readLine_eq] at h
      cases h
  · rintro ⟨marks, after, rfl, hmarks, rfl⟩
    rw [readLine_marks hmarks, readLine]
    rfl

/-- A literal on one line is not read when its marks end where it cannot go on. -/
theorem readLine_eq_error_iff : readLine start offset t = .error e ↔
    ∃ marks stop, t = textOf marks ++ stop ∧ LiteralForm.line.Holds marks stop ∧
      DeadEnd .line start (offset + (textOf marks).length) stop e := by
  constructor
  · intro h
    obtain ⟨marks, stop, rfl, hmarks, ⟨after, rfl⟩ | ⟨e', hstop⟩⟩ := isMarkedUp .line start offset t
    · rw [readLine_marks hmarks, LiteralForm.closing, List.singleton_append, readLine] at h
      cases h
    · rw [readLine_marks hmarks, hstop.readLine_eq] at h
      cases h
      exact ⟨marks, stop, rfl, hmarks, hstop⟩
  · rintro ⟨marks, stop, rfl, hmarks, hstop⟩
    rw [readLine_marks hmarks, hstop.readLine_eq]
    rfl

/-! ### Reading in triple quotes -/

/-- Whether only blanks stand behind the last line break, behind a mark. -/
def Mark.leavesBlank (blank : Bool) : Mark → Bool
  | .interpolation _ => false
  | .hidden c => c == '\n'
  | .lineBreak => true
  | .plain c => blank && Text.isBlank c

namespace BlockBody

def pushMark (m : Mark) (b : BlockBody) : BlockBody :=
  match m with
  | .interpolation _ => b.pushInterpolation m.text
  | .lineBreak => b.pushLineBreak
  | _ => b.push m.text

def pushMarks (marks : List Mark) (b : BlockBody) : BlockBody := marks.foldr pushMark b

end BlockBody

theorem readBlock_mark (hm : m.IsWellFormed) (hclosing : ¬ ['"', '"', '"'] <+: m.text ++ t) :
    readBlock start offset blank (m.text ++ t) =
      (readBlock start (offset + m.text.length) (m.leavesBlank blank) t).map (.pushMark m) := by
  cases m with
  | interpolation inside =>
    have hsplit : Interpolation.split? ('(' :: (inside ++ t)) = some ('(' :: inside, t) :=
      Interpolation.splitFrom_append hm t
    have hoffset : offset + 1 + ('(' :: inside).length =
        offset + (Mark.interpolation inside).text.length := by
      simp only [Mark.text, List.length_cons]
      omega
    rw [← hoffset]
    exact readBlock_interpolation hsplit
  | hidden c => exact readBlock.eq_4 _ _ _ _ _ hm
  | lineBreak => exact readBlock.eq_5 _ _ _ _
  | plain c =>
    have hquotes : c = '"' → ¬ ['"', '"'] <+: t := by
      rintro rfl hprefix
      exact hclosing ((List.prefix_append_right_inj ['"']).2 hprefix)
    exact readBlock_plain _ _ _ hquotes hm.1 hm.2

/-- In triple quotes marks are read one by one, and what follows them is read behind them. -/
theorem readBlock_marks (hmarks : LiteralForm.block.Holds marks t) :
    readBlock start offset blank (textOf marks ++ t) =
      (readBlock start (offset + (textOf marks).length) (marks.foldl Mark.leavesBlank blank) t).map
        (.pushMarks marks) := by
  induction marks generalizing offset blank with
  | nil => cases h : readBlock start offset blank t <;> simp [h, Except.map, BlockBody.pushMarks]
  | cons m marks ih =>
    obtain ⟨hm, hclosing, -, hmarks⟩ := hmarks
    rw [textOf_cons, List.append_assoc, readBlock_mark hm hclosing, ih hmarks, List.length_append,
      ← Nat.add_assoc, List.foldl_cons]
    cases readBlock start (offset + m.text.length + (textOf marks).length)
      (marks.foldl Mark.leavesBlank (m.leavesBlank blank)) t <;> rfl

theorem DeadEnd.readBlock_eq (h : DeadEnd .block start offset t e) :
    readBlock start offset blank t = .error e := by
  cases h with
  | breaksOff h =>
    obtain rfl | rfl | ⟨hline, -⟩ := h
    · rw [readBlock]
    · rw [readBlock, readBlock]
      · rfl
      all_goals simp
    · cases hline
  | unclosed h =>
    rw [readBlock]
    split
    · rfl
    · next hsome => rw [h] at hsome; cases hsome

/-- The flag that the reader carries is what the marks leave of it. -/
theorem pushMarks_eq_assemble (blank : Bool) (rest : Text) (marks : List Mark) :
    BlockBody.pushMarks marks
        ⟨if marks.foldl Mark.leavesBlank blank then none else some [], [], rest⟩ =
      assemble blank rest marks := by
  induction marks generalizing blank with
  | nil => rfl
  | cons m marks ih =>
    have hmark := congrArg (BlockBody.pushMark m) (ih (m.leavesBlank blank))
    cases m <;> exact hmark

theorem rest_assemble (blank : Bool) (rest : Text) (marks : List Mark) :
    (assemble blank rest marks).rest = rest := by
  induction marks generalizing blank with
  | nil => rfl
  | cons m marks ih => cases m <;> exact ih _

/-- A literal in triple quotes is read when its marks end at the closing quotes. -/
theorem readBlock_eq_ok_iff {b : BlockBody} : readBlock start offset blank t = .ok b ↔
    ∃ marks after, t = textOf marks ++ '"' :: '"' :: '"' :: after ∧
      LiteralForm.block.Holds marks ('"' :: '"' :: '"' :: after) ∧ b = assemble blank after marks := by
  constructor
  · intro h
    obtain ⟨marks, stop, rfl, hmarks, ⟨after, rfl⟩ | ⟨e, hstop⟩⟩ := isMarkedUp .block start offset t
    · refine ⟨marks, after, rfl, hmarks, ?_⟩
      rw [readBlock_marks hmarks] at h
      simp only [LiteralForm.closing, List.cons_append, List.nil_append, readBlock] at h
      rw [← pushMarks_eq_assemble]
      exact (Except.ok.inj h).symm
    · rw [readBlock_marks hmarks, hstop.readBlock_eq] at h
      cases h
  · rintro ⟨marks, after, rfl, hmarks, rfl⟩
    rw [readBlock_marks hmarks, readBlock, ← pushMarks_eq_assemble]
    rfl

/-- A literal in triple quotes is read by its marks up to the closing quotes. -/
theorem exists_marks_of_readBlock {b : BlockBody} (h : readBlock start offset blank t = .ok b) :
    ∃ marks, t = textOf marks ++ '"' :: '"' :: '"' :: b.rest ∧
      (∀ mark ∈ marks, mark.IsWellFormed) ∧ b = assemble blank b.rest marks := by
  obtain ⟨marks, after, rfl, hmarks, rfl⟩ := readBlock_eq_ok_iff.1 h
  rw [rest_assemble]
  exact ⟨marks, rfl, hmarks.isWellFormed, rfl⟩

/-- A literal in triple quotes is not read when its marks end where it cannot go on. -/
theorem readBlock_eq_error_iff : readBlock start offset blank t = .error e ↔
    ∃ marks stop, t = textOf marks ++ stop ∧ LiteralForm.block.Holds marks stop ∧
      DeadEnd .block start (offset + (textOf marks).length) stop e := by
  constructor
  · intro h
    obtain ⟨marks, stop, rfl, hmarks, ⟨after, rfl⟩ | ⟨e', hstop⟩⟩ := isMarkedUp .block start offset t
    · rw [readBlock_marks hmarks, LiteralForm.closing] at h
      simp only [List.cons_append, List.nil_append, readBlock] at h
      cases h
    · rw [readBlock_marks hmarks, hstop.readBlock_eq] at h
      cases h
      exact ⟨marks, stop, rfl, hmarks, hstop⟩
  · rintro ⟨marks, stop, rfl, hmarks, hstop⟩
    rw [readBlock_marks hmarks, hstop.readBlock_eq]
    rfl

end ColorLiteral.StringLiteral
