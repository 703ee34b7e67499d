import ColorLiteral.Proofs.Token.Stop

/-!
# Literals that are not read

A literal is not read for one of three reasons (`Defect`): text stands on its opening line, the
literal breaks off, or an interpolation inside of it does not end. The first two are reported at the
opening quote of the literal, the third one at the opening bracket of the interpolation. Reading
fails for these reasons and for no others (`read_eq_error_iff`).
-/

namespace ColorLiteral.StringLiteral

/-- What stands between the first quote of a literal and its marks. -/
def LiteralForm.IsOpening : LiteralForm → Text → Prop
  | line, opening => opening = []
  | block, opening => opening = ['"', '"', '\n'] ∨ opening = ['"', '"', '\r', '\n']

/-- Why the literal that a quote opens is not read, by the text behind that quote. -/
inductive Defect (start : Nat) : Text → ParseError → Prop
  | opening {t : Text} (hline : ¬ ['\n'] <+: t) (hreturn : ¬ ['\r', '\n'] <+: t) :
      Defect start ('"' :: '"' :: t) ⟨.textOnOpeningLine, start⟩
  | inside {form : LiteralForm} {opening stop : Text} {marks : List Mark} {e : ParseError}
      (hopening : form.IsOpening opening) (hmarks : form.Holds marks stop)
      (hstop : DeadEnd form start (start + 1 + opening.length + (textOf marks).length) stop e) :
      Defect start (opening ++ (textOf marks ++ stop)) e

variable {start offset : Nat} {t stop : Text} {marks : List Mark} {e : ParseError}

theorem Defect.of_line (hmarks : LiteralForm.line.Holds marks stop)
    (hstop : DeadEnd .line start (start + 1 + (textOf marks).length) stop e) :
    Defect start (textOf marks ++ stop) e :=
  have hopening : LiteralForm.line.IsOpening [] := rfl
  .inside hopening hmarks hstop

theorem Defect.of_block {opening : Text} (hopening : LiteralForm.block.IsOpening opening)
    (hmarks : LiteralForm.block.Holds marks stop)
    (hstop : DeadEnd .block start (start + 1 + opening.length + (textOf marks).length) stop e) :
    Defect start (opening ++ (textOf marks ++ stop)) e :=
  .inside hopening hmarks hstop

/-- A literal on one line that is not read does not start with a second quote. -/
theorem not_quote_isPrefix (hmarks : LiteralForm.line.Holds marks stop)
    (hstop : DeadEnd .line start offset stop e) : ¬ ['"'] <+: textOf marks ++ stop := by
  -- a quote closes the literal, so no mark and no dead end starts with one
  cases marks with
  | cons m marks =>
    rw [textOf_cons, List.append_assoc]
    exact hmarks.2.1
  | nil =>
    cases hstop with
    | breaksOff h =>
      obtain rfl | rfl | ⟨-, after, rfl⟩ := h <;> simp
    | unclosed => simp

/-- A literal is not read for its defects, and for nothing else. -/
theorem read_eq_error_iff : read start t = .error e ↔ Defect start t e := by
  constructor
  · intro h
    fun_cases read start t with
    | case1 rest =>
      obtain ⟨marks, stop, rfl, hmarks, hstop⟩ :=
        readBlock_eq_error_iff.1 (Outcome.of_map_eq_error h)
      exact .of_block (.inl rfl) hmarks hstop
    | case2 rest =>
      obtain ⟨marks, stop, rfl, hmarks, hstop⟩ :=
        readBlock_eq_error_iff.1 (Outcome.of_map_eq_error h)
      exact .of_block (.inr rfl) hmarks hstop
    | case3 rest hline hreturn =>
      rw [read] at h
      · cases h
        refine .opening ?_ ?_
        · rintro ⟨u, rfl⟩
          exact hline u rfl
        · rintro ⟨u, rfl⟩
          exact hreturn u rfl
      all_goals assumption
    | case4 t hline hreturn hquotes =>
      have hno : ¬ ['"', '"'] <+: t := by
        rintro ⟨u, rfl⟩
        exact hquotes u rfl
      rw [read_of_line start hno] at h
      obtain ⟨marks, stop, rfl, hmarks, hstop⟩ :=
        readLine_eq_error_iff.1 (Outcome.of_map_eq_error h)
      exact .of_line hmarks hstop
  · rintro (⟨hline, hreturn⟩ | @⟨form, opening, stop, marks, _, hopening, hmarks, hstop⟩)
    · rw [read]
      · rintro u rfl
        exact hline ⟨u, rfl⟩
      · rintro u rfl
        exact hreturn ⟨u, rfl⟩
    · cases form with
      | line =>
        obtain rfl : opening = [] := hopening
        have hno : ¬ ['"', '"'] <+: textOf marks ++ stop := fun hprefix =>
          not_quote_isPrefix hmarks hstop (.trans (List.prefix_append ['"'] ['"']) hprefix)
        have hbody : readLine start (start + 1) (textOf marks ++ stop) = .error e :=
          readLine_eq_error_iff.2 ⟨marks, stop, rfl, hmarks, hstop⟩
        rw [List.nil_append, read_of_line start hno, hbody]
        rfl
      | block =>
        obtain rfl | rfl := hopening
        · have hbody : readBlock start (start + 4) true (textOf marks ++ stop) = .error e :=
            readBlock_eq_error_iff.2 ⟨marks, stop, rfl, hmarks, hstop⟩
          rw [List.cons_append, List.cons_append, List.cons_append, List.nil_append, read, hbody]
          rfl
        · have hbody : readBlock start (start + 5) true (textOf marks ++ stop) = .error e :=
            readBlock_eq_error_iff.2 ⟨marks, stop, rfl, hmarks, hstop⟩
          rw [List.cons_append, List.cons_append, List.cons_append, List.cons_append,
            List.nil_append, read, hbody]
          rfl

/-- A literal that is not read is reported inside of the text. -/
theorem Defect.position_lt (h : Defect start t e) : e.position < start + 1 + t.length := by
  cases h with
  | opening => exact Nat.lt_of_lt_of_le (Nat.lt_succ_self start) (Nat.le_add_right ..)
  | inside _ _ hstop =>
    cases hstop with
    | breaksOff => exact Nat.lt_of_lt_of_le (Nat.lt_succ_self start) (Nat.le_add_right ..)
    | unclosed =>
      simp only [List.length_append, List.length_cons]
      omega

end ColorLiteral.StringLiteral
