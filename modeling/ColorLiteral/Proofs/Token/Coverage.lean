import ColorLiteral.Proofs.Text.Cut
import ColorLiteral.Proofs.Token.Layout

/-!
# Nothing of a text is lost

The tokens of a text are parts of it. They follow each other without an overlap, and outside of them
there are only blanks; inside of them there are blanks only in string literals (`LosesNothing`). A
text has such tokens, or else reading stops at a string literal that has a defect, and the error
names the opening quote of that literal or the bracket of an interpolation in it
(`readAll_losesNothing_or_defect`).
-/

namespace ColorLiteral

namespace StringLiteral

/-- A literal that is not read is reported at its opening quote, or at the opening bracket of an
interpolation that does not end. -/
theorem Defect.place {start : Nat} {t : Text} {e : ParseError} (h : Defect start t e) :
    e = ⟨.textOnOpeningLine, start⟩ ∨ e = ⟨.unterminatedString, start⟩ ∨
      ∃ inside after, t = inside ++ '\\' :: '(' :: after ∧
        Interpolation.split? ('(' :: after) = none ∧
        e = ⟨.unterminatedInterpolation, start + 1 + inside.length + 1⟩ := by
  cases h with
  | opening => exact .inl rfl
  | @inside form opening _ marks _ _ _ hstop =>
    cases hstop with
    | breaksOff => exact .inr (.inl rfl)
    | @unclosed after hsplit =>
      refine .inr (.inr ⟨opening ++ textOf marks, after, by rw [List.append_assoc], hsplit, ?_⟩)
      rw [List.length_append, ← Nat.add_assoc]

end StringLiteral

namespace Token

/-- The span of a token, and its characters. -/
def piece (token : Token) : Text.Piece := (token.span, token.text)

/-- The tokens are parts of a text, one behind the other, and only blanks lie outside of them. Only
string literals have blanks inside. -/
structure LosesNothing (source : Text) (tokens : List Token) : Prop where
  start_lt_stop : ∀ token ∈ tokens, token.start < token.stop
  stop_le_length : ∀ token ∈ tokens, token.stop ≤ source.length
  slice_eq_text : ∀ token ∈ tokens, source.slice token.start token.stop = token.text
  in_order : tokens.Pairwise fun token next => token.stop ≤ next.start
  outside_isBlanks : (source.outside (tokens.map span)).IsBlanks
  blankFree_text : ∀ token ∈ tokens, (∀ segments, token.kind ≠ .string segments) →
    Text.BlankFree token.text

/-- Tokens that lie in a text cut it into their characters and blanks. -/
theorem Layout.exists_cut {offset : Nat} {t : Text} {tokens : List Token}
    (h : Layout offset t tokens) :
    ∃ out, Text.Cut offset t (tokens.map piece) out ∧ out.IsBlanks := by
  induction h with
  | @nil _ blanks hblanks => exact ⟨blanks, .rest, hblanks⟩
  | @cons _ blanks _ token _ hblanks hstart hform _ ih =>
    obtain ⟨out, hcut, hout⟩ := ih
    rw [stop, hstart] at hcut
    refine ⟨blanks ++ out, ?_, fun c hc => (List.mem_append.1 hc).elim (hblanks c) (hout c)⟩
    rw [List.map_cons, piece, span, stop, hstart]
    exact .piece hform.solid hcut

/-- A token that is not a string literal has no blanks inside. -/
theorem blankFree_of_read {start : Nat} {c : Char} {rest after : Text} {token : Token}
    (hc : Text.isBlank c = false) (h : read start c rest = .ok (token, after))
    (hkind : ∀ segments, token.kind ≠ .string segments) : Text.BlankFree token.text := by
  unfold read at h
  split at h
  · obtain ⟨contents, -, heq⟩ := Outcome.exists_of_map_eq_ok h
    cases heq
    exact absurd rfl (hkind contents.1)
  · cases h
    exact Lexeme.blankFree_plain rest hc

/-- The tokens that are read up to the end of a text lose nothing of it. -/
theorem losesNothing_of_readAll {source : Text} {tokens : List Token}
    (h : readAll source = .ok tokens) : LosesNothing source tokens := by
  obtain ⟨stop, hreads⟩ := readAllFrom_eq_ok_iff.1 h
  have hlayout := readAll_layout h
  obtain ⟨out, hcut, hout⟩ := hlayout.exists_cut
  have hpiece {token : Token} (hmem : token ∈ tokens) : token.piece ∈ tokens.map piece :=
    List.mem_map_of_mem hmem
  exact {
    start_lt_stop := fun token hmem => (hlayout.isWellFormed_of_mem hmem).start_lt_stop
    stop_le_length := fun token hmem => by simpa using hlayout.stop_le_of_mem hmem
    slice_eq_text := fun token hmem => hcut.textIn_eq (by simp) (hpiece hmem)
    in_order := (List.pairwise_map.1 hcut.pairwise).imp Int.ofNat_le.1
    outside_isBlanks := by
      have houtside : source.outside (tokens.map span) = out := by
        rw [← hcut.outsideFrom_eq, List.map_map]
        rfl
      rwa [houtside]
    blankFree_text := fun token hmem hkind => by
      obtain ⟨c, rest, after, hc, hread⟩ := hreads.exists_read_of_mem hmem
      exact blankFree_of_read hc hread hkind }

/-- Every text is read without a loss, or up to a string literal that cannot be read. That literal
opens behind the tokens before it, and the error is reported at its quote, or at the bracket of an
interpolation inside of it that does not end. -/
theorem readAll_losesNothing_or_defect (source : Text) :
    (∃ tokens, readAll source = .ok tokens ∧ LosesNothing source tokens) ∨
    ∃ e before rest tokens, readAll source = .error e ∧ source = before ++ '"' :: rest ∧
      ReadsUpTo 0 source tokens before.length ('"' :: rest) ∧
      StringLiteral.Defect before.length rest e ∧
      (e.position = before.length ∨
        e.fault = .unterminatedInterpolation ∧ before.length + 2 ≤ e.position ∧
          ∃ after, source.drop (e.position - 1) = '\\' :: '(' :: after ∧
            Interpolation.split? ('(' :: after) = none) := by
  cases hread : readAll source with
  | ok tokens => exact .inl ⟨tokens, rfl, losesNothing_of_readAll hread⟩
  | error e =>
    obtain ⟨tokens, stop, rest, hreads, hdefect⟩ := readAllFrom_eq_error_iff.1 hread
    obtain ⟨before, hsource, hstop, -⟩ := hreads.layout
    rw [Nat.zero_add] at hstop
    subst hstop
    refine .inr ⟨e, before, rest, tokens, rfl, hsource, hreads, hdefect, ?_⟩
    obtain rfl | rfl | ⟨inside, after, rfl, hsplit, rfl⟩ := hdefect.place
    · exact .inl rfl
    · exact .inl rfl
    · -- the error is at the bracket, one place behind the backslash
      refine .inr ⟨rfl, by simp only; omega, after, ?_, hsplit⟩
      have hplace : source = (before ++ '"' :: inside) ++ '\\' :: '(' :: after := by
        rw [hsource, List.append_assoc, List.cons_append]
      have hlength : before.length + 1 + inside.length + 1 - 1 =
          (before ++ '"' :: inside).length := by
        simp only [List.length_append, List.length_cons]
        omega
      rw [hplace]
      simp only [hlength, List.drop_left]

end Token

end ColorLiteral
