import ColorLiteral.Proofs.Token.Defect
import ColorLiteral.Proofs.Token.Lexeme
import Mathlib.Data.List.Basic

/-!
# How tokens lie in a text

The tokens of a text lie one behind the other, each at its offset, and all that lies outside of
them is blank (`readAll_layout`). A text that has no tokens is reported at one of its offsets
(`readAll_error`).

`Layout` states the first fact by recursion on the tokens. It can be cut between any two of them
(`Layout.append`), and a run of tokens covers one stretch of the text without blanks at its ends
(`Layout.exists_stretch`). `ReadsUpTo` follows the reader through a text: it reads up to the end or
up to a literal that has a defect (`exists_readsUpTo`), and both facts come from it.
-/

namespace ColorLiteral

namespace Text

/-- Every character of a text is blank. -/
def IsBlanks (t : Text) : Prop := ∀ c ∈ t, isBlank c = true

/-- A text is not empty, and no blank stands at either end of it. -/
structure IsSolid (t : Text) : Prop where
  ne_nil : t ≠ []
  head_not_blank : ∀ c ∈ t.head?, isBlank c = false
  last_not_blank : ∀ c ∈ t.getLast?, isBlank c = false

theorem isSolid_of_blankFree {t : Text} (hne : t ≠ []) (ht : BlankFree t) : IsSolid t where
  ne_nil := hne
  head_not_blank c hc := ht c (List.mem_of_mem_head? hc)
  last_not_blank c hc := ht c (List.mem_of_mem_getLast? hc)

/-- What lies between two solid texts does not matter. -/
theorem IsSolid.append_between {s r : Text} (hs : IsSolid s) (between : Text) (hr : IsSolid r) :
    IsSolid (s ++ (between ++ r)) where
  ne_nil := by simp [hs.ne_nil]
  head_not_blank c hc := by
    rw [List.head?_append_of_ne_nil _ hs.ne_nil] at hc
    exact hs.head_not_blank c hc
  last_not_blank c hc := by
    have hne : between ++ r ≠ [] := by simp [hr.ne_nil]
    rw [List.getLast?_append_of_ne_nil _ hne, List.getLast?_append_of_ne_nil _ hr.ne_nil] at hc
    exact hr.last_not_blank c hc

theorem isSolid_quoted (inside : Text) : IsSolid ('"' :: (inside ++ ['"'])) where
  ne_nil := by simp
  head_not_blank c hc := by cases hc; decide
  last_not_blank c hc := by
    rw [← List.cons_append, List.getLast?_concat] at hc
    cases hc
    decide

end Text

namespace Token

/-! ### Single tokens -/

/-- What holds of a token by itself: its text is solid, and punctuation is its one character. -/
structure IsWellFormed (token : Token) : Prop where
  solid : token.text.IsSolid
  punctuation : ∀ c, token.kind = .punctuation c → token.text = [c]

theorem IsWellFormed.start_lt_stop {token : Token} (h : token.IsWellFormed) :
    token.start < token.stop := by
  have := List.length_pos_iff.2 h.solid.ne_nil
  rw [stop]
  omega

/-- A token that is read is the start of the text, at its offset. -/
theorem read_extent {start : Nat} {c : Char} {rest after : Text} {token : Token}
    (hc : Text.isBlank c = false) (h : read start c rest = .ok (token, after)) :
    c :: rest = token.text ++ after ∧ token.start = start ∧ token.IsWellFormed := by
  unfold read at h
  split at h
  · next hquote =>
    obtain ⟨contents, hcontents, heq⟩ := Outcome.exists_of_map_eq_ok h
    obtain ⟨inside, hinside, -⟩ := StringLiteral.read_reach hcontents
    cases heq
    have htext : (c :: rest).take (rest.length + 1 - contents.2.length) =
        '"' :: (inside ++ ['"']) := by
      have hsplit : c :: rest = ('"' :: (inside ++ ['"'])) ++ contents.2 := by
        rw [hquote, hinside]; simp
      have hlength : rest.length + 1 - contents.2.length = ('"' :: (inside ++ ['"'])).length := by
        rw [hinside]; simp; omega
      rw [hlength, hsplit, List.take_left]
    refine ⟨?_, rfl, ⟨?_, fun d hd => by cases hd⟩⟩
    · rw [htext, hquote, hinside]; simp
    · simp only [htext]
      exact Text.isSolid_quoted inside
  · cases h
    refine ⟨?_, rfl, ⟨?_, fun d hd => Lexeme.text_of_plain_punctuation hd⟩⟩
    · exact (List.prefix_iff_eq_append.1 (Lexeme.plain_isPrefix c rest)).symm
    · exact Text.isSolid_of_blankFree (Lexeme.plain_ne_nil c rest) (Lexeme.blankFree_plain rest hc)

/-- Only a literal can fail to be read as a token. -/
theorem read_eq_error_iff {start : Nat} {c : Char} {rest : Text} {e : ParseError} :
    read start c rest = .error e ↔ c = '"' ∧ StringLiteral.Defect start rest e := by
  rw [← StringLiteral.read_eq_error_iff, read]
  split
  · next hquote =>
    refine ⟨fun h => ⟨hquote, Outcome.of_map_eq_error h⟩, fun ⟨_, h⟩ => ?_⟩
    rw [h]
    rfl
  · next hquote => exact ⟨nofun, fun ⟨h, _⟩ => absurd h hquote⟩

/-! ### All tokens -/

/-- The tokens lie one behind the other in a text whose first character has the given offset, and
all that lies outside of them is blank. -/
inductive Layout : Nat → Text → List Token → Prop
  | nil {offset : Nat} {blanks : Text} (hblanks : blanks.IsBlanks) : Layout offset blanks []
  | cons {offset : Nat} {blanks after : Text} {token : Token} {tokens : List Token}
      (hblanks : blanks.IsBlanks) (hstart : token.start = offset + blanks.length)
      (hform : token.IsWellFormed) (hafter : Layout token.stop after tokens) :
      Layout offset (blanks ++ (token.text ++ after)) (token :: tokens)

namespace Layout

variable {offset : Nat} {t : Text} {tokens : List Token}

/-- A blank in front of a text changes nothing but the offset. -/
theorem cons_blank {c : Char} (hc : Text.isBlank c = true) (h : Layout (offset + 1) t tokens) :
    Layout offset (c :: t) tokens := by
  cases h with
  | nil hblanks => exact .nil (List.forall_mem_cons.2 ⟨hc, hblanks⟩)
  | cons hblanks hstart hform hafter =>
    rw [← List.cons_append]
    refine .cons (List.forall_mem_cons.2 ⟨hc, hblanks⟩) ?_ hform hafter
    rw [hstart, List.length_cons]
    omega

theorem isWellFormed_of_mem (h : Layout offset t tokens) {token : Token} (hmem : token ∈ tokens) :
    token.IsWellFormed := by
  induction h with
  | nil => cases hmem
  | cons _ _ hform _ ih =>
    rcases List.mem_cons.1 hmem with rfl | hmem
    · exact hform
    · exact ih hmem

/-- Every token lies inside the text. -/
theorem stop_le_of_mem (h : Layout offset t tokens) {token : Token} (hmem : token ∈ tokens) :
    token.stop ≤ offset + t.length := by
  induction h with
  | nil => cases hmem
  | cons _ hstart _ _ ih =>
    simp only [List.length_append]
    rcases List.mem_cons.1 hmem with rfl | hmem
    · rw [stop, hstart]
      omega
    · have hle := ih hmem
      simp only [stop, hstart] at hle ⊢
      omega

/-- A layout can be cut between two tokens. -/
theorem append {first rest : List Token} (h : Layout offset t (first ++ rest)) :
    ∃ s r, t = s ++ r ∧ Layout offset s first ∧ Layout (offset + s.length) r rest := by
  induction first generalizing offset t with
  | nil => exact ⟨[], t, rfl, .nil (by simp [Text.IsBlanks]), h⟩
  | cons token first ih =>
    cases h with
    | @cons _ blanks after _ _ hblanks hstart hform hafter =>
      obtain ⟨s, r, rfl, hs, hr⟩ := ih hafter
      refine ⟨blanks ++ (token.text ++ s), r, by simp, .cons hblanks hstart hform hs, ?_⟩
      have hoffset : offset + (blanks ++ (token.text ++ s)).length = token.stop + s.length := by
        rw [stop, hstart]
        simp only [List.length_append]
        omega
      rwa [hoffset]

/-- A run of tokens covers one stretch of the text, from the start of the first token to the end of
the last one. -/
theorem exists_stretch {first : Token} {rest : List Token} (h : Layout offset t (first :: rest)) :
    ∃ blanks stretch behind, t = blanks ++ (stretch ++ behind) ∧ blanks.IsBlanks ∧
      behind.IsBlanks ∧ stretch.IsSolid ∧ first.start = offset + blanks.length ∧
      ((first :: rest).getLast (by simp)).stop = first.start + stretch.length := by
  induction rest generalizing offset t first with
  | nil =>
    cases h with
    | @cons _ blanks after _ _ hblanks hstart hform hafter =>
      cases hafter with
      | nil hbehind =>
        exact ⟨blanks, first.text, after, rfl, hblanks, hbehind, hform.solid, hstart, rfl⟩
  | cons second rest ih =>
    cases h with
    | @cons _ blanks after _ _ hblanks hstart hform hafter =>
      obtain ⟨between, stretch, behind, rfl, -, hbehind, hsolid, hsecond, hlast⟩ := ih hafter
      refine ⟨blanks, first.text ++ (between ++ stretch), behind, by simp, hblanks, hbehind,
        hform.solid.append_between between hsolid, hstart, ?_⟩
      rw [List.getLast_cons (by simp), hlast, hsecond, stop]
      simp only [List.length_append]
      omega

end Layout

/-! ### Reading one token after another -/

/-- Reading goes on behind a token. -/
theorem readAllFrom_of_read {start : Nat} {c : Char} {rest after : Text} {token : Token}
    (hc : Text.isBlank c = false) (h : read start c rest = .ok (token, after)) :
    readAllFrom start (c :: rest) = (readAllFrom token.stop after).map (token :: ·) := by
  rw [readAllFrom, if_neg (by simp [hc])]
  split
  · next hread => rw [h] at hread; cases hread
  · next hread => rw [h] at hread; cases hread; rfl

/-- From a text, tokens are read one after another. What is left of the text comes last, behind the
offset of its first character. -/
inductive ReadsUpTo : Nat → Text → List Token → Nat → Text → Prop
  | done {offset : Nat} {t : Text} : ReadsUpTo offset t [] offset t
  | blank {offset stop : Nat} {c : Char} {t rest : Text} {tokens : List Token}
      (hc : Text.isBlank c = true) (h : ReadsUpTo (offset + 1) t tokens stop rest) :
      ReadsUpTo offset (c :: t) tokens stop rest
  | token {offset stop : Nat} {c : Char} {t after rest : Text} {token : Token}
      {tokens : List Token} (hc : Text.isBlank c = false)
      (hread : read offset c t = .ok (token, after))
      (h : ReadsUpTo token.stop after tokens stop rest) :
      ReadsUpTo offset (c :: t) (token :: tokens) stop rest

namespace ReadsUpTo

variable {offset stop : Nat} {t rest : Text} {tokens : List Token}

/-- What is left is read behind the tokens. -/
theorem readAllFrom_eq (h : ReadsUpTo offset t tokens stop rest) :
    readAllFrom offset t = (readAllFrom stop rest).map (tokens ++ ·) := by
  induction h with
  | @done offset t => cases readAllFrom offset t <;> rfl
  | blank hc _ ih => rw [readAllFrom, if_pos hc, ih]
  | @token _ stop _ _ _ rest _ _ hc hread _ ih =>
    rw [readAllFrom_of_read hc hread, ih]
    cases readAllFrom stop rest <;> rfl

/-- The tokens lie in the part of the text that is no longer left. -/
theorem layout (h : ReadsUpTo offset t tokens stop rest) :
    ∃ s, t = s ++ rest ∧ stop = offset + s.length ∧ Layout offset s tokens := by
  induction h with
  | done => exact ⟨[], rfl, rfl, .nil (by simp [Text.IsBlanks])⟩
  | @blank _ _ c _ _ _ hc _ ih =>
    obtain ⟨s, rfl, rfl, hlayout⟩ := ih
    exact ⟨c :: s, rfl, by rw [List.length_cons]; omega, hlayout.cons_blank hc⟩
  | @token _ _ _ _ _ _ token _ hc hread _ ih =>
    obtain ⟨s, rfl, rfl, hlayout⟩ := ih
    obtain ⟨htext, hstart, hform⟩ := read_extent hc hread
    have hblanks : Text.IsBlanks [] := by simp [Text.IsBlanks]
    refine ⟨token.text ++ s, by rw [htext, List.append_assoc], ?_,
      .cons hblanks hstart hform hlayout⟩
    rw [Token.stop, hstart, List.length_append]
    omega

/-- Each of the tokens was read somewhere. -/
theorem exists_read_of_mem (h : ReadsUpTo offset t tokens stop rest) {token : Token}
    (hmem : token ∈ tokens) :
    ∃ c r after, Text.isBlank c = false ∧ read token.start c r = .ok (token, after) := by
  induction h with
  | done => cases hmem
  | blank _ _ ih => exact ih hmem
  | @token _ _ c r after _ _ _ hc hread _ ih =>
    rcases List.mem_cons.1 hmem with rfl | hmem
    · exact ⟨c, r, after, hc, by rwa [(read_extent hc hread).2.1]⟩
    · exact ih hmem

end ReadsUpTo

/-- Tokens are read until nothing is left or until a literal cannot be read. -/
theorem exists_readsUpTo (offset : Nat) (t : Text) :
    ∃ tokens stop rest, ReadsUpTo offset t tokens stop rest ∧
      (rest = [] ∨ ∃ after e, rest = '"' :: after ∧ StringLiteral.Defect stop after e) := by
  fun_induction readAllFrom offset t with
  | case1 offset => exact ⟨[], offset, [], .done, .inl rfl⟩
  | case2 offset c rest hc ih =>
    obtain ⟨tokens, stop, left, hreads, hend⟩ := ih
    exact ⟨tokens, stop, left, .blank hc hreads, hend⟩
  | case3 offset c rest hc e hread =>
    obtain ⟨rfl, hdefect⟩ := read_eq_error_iff.1 hread
    exact ⟨[], offset, '"' :: rest, .done, .inr ⟨rest, e, rfl, hdefect⟩⟩
  | case4 offset c rest hc token after hread ih =>
    obtain ⟨tokens, stop, left, hreads, hend⟩ := ih
    exact ⟨token :: tokens, stop, left, .token (Bool.eq_false_iff.2 hc) hread hreads, hend⟩

/-- A literal that has a defect ends the reading. -/
theorem readAllFrom_of_defect {offset : Nat} {t : Text} {e : ParseError}
    (h : StringLiteral.Defect offset t e) : readAllFrom offset ('"' :: t) = .error e := by
  have hread := read_eq_error_iff.2 ⟨rfl, h⟩
  rw [readAllFrom, if_neg (by decide)]
  split
  · next hread' => rw [hread] at hread'; cases hread'; rfl
  · next hread' => rw [hread] at hread'; cases hread'

/-- A text has tokens when they are read up to its end. -/
theorem readAllFrom_eq_ok_iff {offset : Nat} {t : Text} {tokens : List Token} :
    readAllFrom offset t = .ok tokens ↔ ∃ stop, ReadsUpTo offset t tokens stop [] := by
  constructor
  · intro h
    obtain ⟨others, stop, rest, hreads, rfl | ⟨after, e, rfl, hdefect⟩⟩ := exists_readsUpTo offset t
    · rw [hreads.readAllFrom_eq, readAllFrom] at h
      obtain rfl : others ++ [] = tokens := Except.ok.inj h
      exact ⟨stop, by rwa [List.append_nil]⟩
    · rw [hreads.readAllFrom_eq, readAllFrom_of_defect hdefect] at h
      cases h
  · rintro ⟨stop, hreads⟩
    rw [hreads.readAllFrom_eq, readAllFrom]
    exact congrArg Except.ok (List.append_nil tokens)

/-- A text has no tokens when tokens are read up to a literal that has a defect. -/
theorem readAllFrom_eq_error_iff {offset : Nat} {t : Text} {e : ParseError} :
    readAllFrom offset t = .error e ↔ ∃ tokens stop rest,
      ReadsUpTo offset t tokens stop ('"' :: rest) ∧ StringLiteral.Defect stop rest e := by
  constructor
  · intro h
    obtain ⟨tokens, stop, rest, hreads, rfl | ⟨after, e', rfl, hdefect⟩⟩ :=
      exists_readsUpTo offset t
    · rw [hreads.readAllFrom_eq, readAllFrom] at h
      cases h
    · rw [hreads.readAllFrom_eq, readAllFrom_of_defect hdefect] at h
      cases h
      exact ⟨tokens, stop, after, hreads, hdefect⟩
  · rintro ⟨tokens, stop, rest, hreads, hdefect⟩
    rw [hreads.readAllFrom_eq, readAllFrom_of_defect hdefect]
    rfl

theorem readAllFrom_layout {offset : Nat} {t : Text} {tokens : List Token}
    (h : readAllFrom offset t = .ok tokens) : Layout offset t tokens := by
  obtain ⟨stop, hreads⟩ := readAllFrom_eq_ok_iff.1 h
  obtain ⟨s, rfl, -, hlayout⟩ := hreads.layout
  rwa [List.append_nil]

theorem readAllFrom_error {offset : Nat} {t : Text} {e : ParseError}
    (h : readAllFrom offset t = .error e) : e.position < offset + t.length := by
  obtain ⟨tokens, stop, rest, hreads, hdefect⟩ := readAllFrom_eq_error_iff.1 h
  obtain ⟨s, rfl, rfl, -⟩ := hreads.layout
  have hlt := hdefect.position_lt
  simp only [List.length_append, List.length_cons]
  omega

/-- The tokens of a text lie one behind the other in it, with nothing but blanks outside. -/
theorem readAll_layout {source : Text} {tokens : List Token} (h : readAll source = .ok tokens) :
    Layout 0 source tokens :=
  readAllFrom_layout h

/-- A text that has no tokens is reported inside of it. -/
theorem readAll_error {source : Text} {e : ParseError} (h : readAll source = .error e) :
    e.position < source.length := by
  simpa using readAllFrom_error h

end Token

end ColorLiteral
