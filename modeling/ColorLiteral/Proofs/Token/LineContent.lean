import ColorLiteral.Literal
import ColorLiteral.Proofs.Text.Hiding
import ColorLiteral.Proofs.Token.Layout
import Mathlib.Data.List.Chain

/-!
# What a literal on one line keeps

The pieces of a literal on one line make up the text between its quotes. They are cut where an
interpolation opens and where it ends, and nowhere else (`FollowsOpenings`), so a literal is one
piece of raw text if nothing in it opens an interpolation (`followsOpenings_of_read`). A line break
stands in raw text only behind a backslash that hides it; in front of any other one the literal
breaks off (`lineBreak_hidden_or_unterminated`).

All this is shown by one induction over the marks of the literal: raw text is made of the raw texts
of its marks (`Spells`).
-/

namespace ColorLiteral

namespace StringLiteral

open Text (opening)

variable {body t : Text} {segments : List Segment}

/-! ### Pieces in a row -/

/-- A piece as it is cut out of a literal on one line: some raw text, or an interpolation from its
backslash to its closing bracket. -/
structure IsCutOut (s : Segment) : Prop where
  ne_nil : s.isInterpolation = false → s.text ≠ []
  isRaw : s.isInterpolation = false → s.text.IsRaw
  brackets : s.isInterpolation = true → ∃ inside, s.text = opening ++ (inside ++ [')'])

theorem isCutOut_plain (hne : t ≠ []) (hraw : t.IsRaw) : IsCutOut (.plain t) :=
  ⟨fun _ => hne, fun _ => hraw, nofun⟩

theorem isCutOut_interpolation {inside : Text} (h : (Mark.interpolation inside).IsWellFormed) :
    IsCutOut (.interpolation (Mark.interpolation inside).text) := by
  obtain ⟨first, hfirst⟩ := Interpolation.exists_eq_concat_of_splitFrom h
  refine ⟨nofun, nofun, fun _ => ?_⟩
  cases first with
  | nil => cases hfirst
  | cons c first =>
    obtain ⟨-, rfl⟩ := List.cons.inj hfirst
    exact ⟨first, rfl⟩

/-- Of two pieces in a row, one is an interpolation. -/
def Apart (s r : Segment) : Prop := s.isInterpolation = true ∨ r.isInterpolation = true

/-! ### Bodies that spell a text -/

/-- A body is cut out of a text. -/
structure LineBody.Spells (b : LineBody) (t : Text) : Prop where
  text_eq : b.lead ++ b.later.flatMap Segment.text = t
  lead_isRaw : b.lead.IsRaw
  head_isInterpolation : ∀ s ∈ b.later.head?, s.isInterpolation = true
  apart : b.later.IsChain Apart
  isCutOut : ∀ s ∈ b.later, IsCutOut s

namespace LineBody.Spells

variable {b : LineBody}

theorem flatMap_segments (h : b.Spells t) : b.segments.flatMap Segment.text = t := by
  rw [← h.text_eq, segments]
  cases b.lead <;> rfl

theorem apart_segments (h : b.Spells t) : b.segments.IsChain Apart := by
  rw [segments]
  split
  · exact h.apart
  · exact h.apart.cons fun s hs => .inr (h.head_isInterpolation s hs)

theorem isCutOut_segments (h : b.Spells t) : ∀ s ∈ b.segments, IsCutOut s := by
  rw [segments]
  split
  · exact h.isCutOut
  · next hlead =>
    have hne : b.lead ≠ [] := fun hnil => hlead (List.isEmpty_iff.2 hnil)
    exact List.forall_mem_cons.2 ⟨isCutOut_plain hne h.lead_isRaw, h.isCutOut⟩

theorem push {s : Text} (hs : s.IsRaw) (h : b.Spells t) : (b.push s).Spells (s ++ t) where
  text_eq := by rw [← h.text_eq, ← List.append_assoc]; rfl
  lead_isRaw := hs.append h.lead_isRaw
  head_isInterpolation := h.head_isInterpolation
  apart := h.apart
  isCutOut := h.isCutOut

theorem pushInterpolation {s : Text} (hs : IsCutOut (.interpolation s)) (h : b.Spells t) :
    (b.pushInterpolation s).Spells (s ++ t) where
  text_eq := by rw [← h.flatMap_segments]; rfl
  lead_isRaw := Text.isRaw_nil
  head_isInterpolation s' hs' := by cases hs'; rfl
  apart := h.apart_segments.cons fun _ _ => .inl rfl
  isCutOut := List.forall_mem_cons.2 ⟨hs, h.isCutOut_segments⟩

end LineBody.Spells

theorem LineBody.rest_pushMarks (marks : List Mark) (b : LineBody) :
    (pushMarks marks b).rest = b.rest := by
  induction marks with
  | nil => rfl
  | cons m marks ih => cases m <;> exact ih

/-- The marks of a literal on one line make up a body that is cut out of their text. -/
theorem spells_pushMarks {marks : List Mark} {behind : Text}
    (h : LiteralForm.line.Holds marks behind) (after : Text) :
    (LineBody.pushMarks marks ⟨[], [], after⟩).Spells (textOf marks) := by
  induction marks with
  | nil => exact ⟨rfl, Text.isRaw_nil, nofun, .nil, nofun⟩
  | cons m marks ih =>
    obtain ⟨hm, -, hbreak, hmarks⟩ := h
    have hrest := ih hmarks
    cases m with
    | interpolation inside => exact hrest.pushInterpolation (isCutOut_interpolation hm)
    | hidden c => exact hrest.push (Text.isRaw_hidden hm)
    | lineBreak => exact absurd rfl (hbreak rfl)
    | plain c => exact hrest.push (Text.isRaw_singleton hm.1 hm.2)

/-! ### Pieces of a literal -/

/-- The pieces of a literal are its body, cut at the places where an interpolation opens or ends. Raw
text is not cut, opens nothing, and does not hide the interpolation that follows it. -/
structure FollowsOpenings (body : Text) (segments : List Segment) : Prop where
  ne_nil : segments ≠ []
  flatMap_text : segments.flatMap Segment.text = body
  apart : segments.IsChain Apart
  body_eq_nil : ∀ s ∈ segments, s.isInterpolation = false → s.text = [] → body = []
  brackets : ∀ s ∈ segments, s.isInterpolation = true →
    ∃ inside, s.text = opening ++ (inside ++ [')'])
  not_hidesNext : ∀ s ∈ segments, s.isInterpolation = false → ¬ s.text.HidesNext
  no_opening : ∀ s ∈ segments, s.isInterpolation = false → ¬ s.text.HasBare opening

theorem LineBody.contents_of_segments_eq_nil {b : LineBody} (h : b.segments = []) :
    b.contents.1 = [.plain []] := by
  rw [contents, h]
  rfl

theorem LineBody.contents_of_segments_ne_nil {b : LineBody} (h : b.segments ≠ []) :
    b.contents.1 = b.segments := by
  rw [contents, if_neg (by rwa [List.isEmpty_iff])]

theorem LineBody.Spells.isRaw_contents {b : LineBody} (h : b.Spells body) :
    ∀ s ∈ b.contents.1, s.isInterpolation = false → s.text.IsRaw := by
  by_cases hnil : b.segments = []
  · rw [LineBody.contents_of_segments_eq_nil hnil]
    exact List.forall_mem_singleton.2 fun _ => Text.isRaw_nil
  · rw [LineBody.contents_of_segments_ne_nil hnil]
    exact fun s hs => (h.isCutOut_segments s hs).isRaw

theorem LineBody.Spells.followsOpenings {b : LineBody} (h : b.Spells body) :
    FollowsOpenings body b.contents.1 := by
  have hnot := fun s hs hplain => (h.isRaw_contents s hs hplain).not_hidesNext
  have hopening := fun s hs hplain => (h.isRaw_contents s hs hplain).no_opening
  have hbody := h.flatMap_segments
  by_cases hnil : b.segments = []
  · rw [hnil] at hbody
    rw [LineBody.contents_of_segments_eq_nil hnil] at hnot hopening ⊢
    exact ⟨List.cons_ne_nil _ _, hbody, .singleton _, fun _ _ _ _ => hbody.symm,
      List.forall_mem_singleton.2 nofun, hnot, hopening⟩
  · have hcut := h.isCutOut_segments
    rw [LineBody.contents_of_segments_ne_nil hnil] at hnot hopening ⊢
    exact ⟨hnil, hbody, h.apart_segments,
      fun s hs hplain htext => absurd htext ((hcut s hs).ne_nil hplain),
      fun s hs => (hcut s hs).brackets, hnot, hopening⟩

namespace FollowsOpenings

theorem opening_isPrefix (h : FollowsOpenings body segments) {s : Segment} (hs : s ∈ segments)
    (hinterpolation : s.isInterpolation = true) : opening <+: s.text := by
  obtain ⟨inside, hinside⟩ := h.brackets s hs hinterpolation
  exact ⟨_, hinside.symm⟩

/-- A body is one piece of raw text if nothing in it opens an interpolation. -/
theorem eq_singleton_iff (h : FollowsOpenings body segments) :
    segments = [.plain body] ↔ ¬ body.HasBare opening := by
  constructor
  · rintro rfl
    exact h.no_opening _ (List.mem_singleton_self _) rfl
  · intro hopening
    have hbody := h.flatMap_text
    match segments, h with
    | [], h => exact absurd rfl h.ne_nil
    | ⟨text, true⟩ :: rest, h =>
      have hstarts := h.opening_isPrefix (List.mem_cons_self ..) rfl
      rw [← hbody] at hopening
      exact absurd (Text.hasBare_of_isPrefix (hstarts.trans (List.prefix_append _ _))) hopening
    | [⟨text, false⟩], _ =>
      rw [List.flatMap_singleton] at hbody
      rw [← hbody]
      rfl
    | ⟨text, false⟩ :: r :: rest, h =>
      -- raw text is followed by an interpolation, which nothing in front of it hides
      have hr : r.isInterpolation = true :=
        (List.isChain_cons_cons.1 h.apart).1.resolve_left Bool.false_ne_true
      have hstarts := h.opening_isPrefix (List.mem_cons_of_mem _ (List.mem_cons_self ..)) hr
      have hnot := h.not_hidesNext _ (List.mem_cons_self ..) rfl
      rw [← hbody, List.flatMap_cons, Text.hasBare_append hnot Text.hidesNext_of_opening_eq]
        at hopening
      refine absurd (.inr (Text.hasBare_of_isPrefix ?_)) hopening
      exact hstarts.trans (List.prefix_append _ _)

theorem plainString_eq_ok (h : FollowsOpenings body segments) (hopening : ¬ body.HasBare opening)
    (text : Text) (span : Span) : Literal.plainString (.string text span segments) = .ok body := by
  rw [h.eq_singleton_iff.2 hopening]
  rfl

theorem plainString_eq_error (h : FollowsOpenings body segments) (hopening : body.HasBare opening)
    (text : Text) (span : Span) : Literal.plainString (.string text span segments) =
      .error (.located span .hexInterpolatedString) := by
  match segments, h with
  | [], _ | [⟨_, true⟩], _ | _ :: _ :: _, _ => rfl
  | [⟨t, false⟩], h =>
    have hbody := h.flatMap_text
    rw [List.flatMap_singleton] at hbody
    subst hbody
    exact absurd hopening (h.eq_singleton_iff.1 rfl)

end FollowsOpenings

/-! ### Line breaks -/

/-- A line break stands in a piece of raw text. -/
def HasLineBreak (segments : List Segment) : Prop :=
  ∃ s ∈ segments, s.isInterpolation = false ∧ '\n' ∈ s.text

/-- A backslash hides a line break in a text, outside of interpolations. -/
def HidesLineBreak (content : Text) : Prop :=
  ∃ marks, IsReadAs content marks ∧ .hidden '\n' ∈ marks

namespace LineBody

theorem hasLineBreak_segments_iff (b : LineBody) :
    HasLineBreak b.segments ↔ '\n' ∈ b.lead ∨ HasLineBreak b.later := by
  rw [segments]
  split
  · next hempty => simp [List.isEmpty_iff.1 hempty]
  · simp [HasLineBreak, Segment.plain]

theorem hasLineBreak_contents_iff (b : LineBody) :
    HasLineBreak b.contents.1 ↔ HasLineBreak b.segments := by
  by_cases hnil : b.segments = []
  · rw [contents_of_segments_eq_nil hnil, hnil]
    simp [HasLineBreak, Segment.plain]
  · rw [contents_of_segments_ne_nil hnil]

theorem hasLineBreak_push (t : Text) (b : LineBody) :
    HasLineBreak (b.push t).segments ↔ '\n' ∈ t ∨ HasLineBreak b.segments := by
  rw [hasLineBreak_segments_iff, hasLineBreak_segments_iff, push, List.mem_append, or_assoc]

theorem hasLineBreak_pushInterpolation (t : Text) (b : LineBody) :
    HasLineBreak (b.pushInterpolation t).segments ↔ HasLineBreak b.segments := by
  rw [hasLineBreak_segments_iff]
  simp [pushInterpolation, HasLineBreak, Segment.interpolation]

end LineBody

/-- Only a hidden line break gets into raw text. -/
theorem hasLineBreak_pushMarks {marks : List Mark} {behind : Text}
    (h : LiteralForm.line.Holds marks behind) (after : Text) :
    HasLineBreak (LineBody.pushMarks marks ⟨[], [], after⟩).segments ↔ .hidden '\n' ∈ marks := by
  induction marks with
  | nil => simp [LineBody.pushMarks, LineBody.segments, HasLineBreak]
  | cons m marks ih =>
    obtain ⟨hm, -, hbreak, hmarks⟩ := h
    rw [List.mem_cons, ← ih hmarks, LineBody.pushMarks_cons]
    cases m with
    | interpolation inside => simp [LineBody.pushMark, LineBody.hasLineBreak_pushInterpolation]
    | hidden c => simp [LineBody.pushMark, LineBody.hasLineBreak_push, Mark.text]
    | lineBreak => exact absurd rfl (hbreak rfl)
    | plain c => simp [LineBody.pushMark, LineBody.hasLineBreak_push, Mark.text, hm.2.symm]

end StringLiteral

namespace Token

open StringLiteral
open Text (opening)

/-! ### Literals that are read -/

/-- A literal on one line that is read has the text of some marks between its quotes, and its pieces
are what these marks make up. -/
theorem exists_marks_of_read {start : Nat} {t after : Text} {token : Token}
    (hline : ¬ ['"', '"'] <+: t) (h : read start '"' t = .ok (token, after)) :
    ∃ marks, t = textOf marks ++ '"' :: after ∧ LiteralForm.line.Holds marks ('"' :: after) ∧
      token = ⟨.string (LineBody.pushMarks marks ⟨[], [], after⟩).contents.1,
        '"' :: (textOf marks ++ ['"']), start⟩ := by
  obtain ⟨htext, -, -⟩ := read_extent (by decide) h
  rw [read, if_pos rfl, read_of_line start hline] at h
  obtain ⟨contents, hcontents, htoken⟩ := Outcome.exists_of_map_eq_ok h
  obtain ⟨b, hbody, rfl⟩ := Outcome.exists_of_map_eq_ok hcontents
  obtain ⟨marks, behind, rfl, hmarks, rfl⟩ := readLine_eq_ok_iff.1 hbody
  obtain ⟨rfl, hafter⟩ := Prod.mk.inj htoken
  obtain rfl : behind = after := (LineBody.rest_pushMarks ..).symm.trans hafter
  have hquoted : '"' :: (textOf marks ++ '"' :: behind) =
      '"' :: (textOf marks ++ ['"']) ++ behind := by simp
  refine ⟨marks, rfl, hmarks, ?_⟩
  rw [Token.mk.injEq]
  exact ⟨rfl, (List.append_left_inj behind).1 (htext.symm.trans hquoted), rfl⟩

/-- The pieces of a literal on one line follow the openings in the text between its quotes. Read as
a plain string, the literal is that text if no interpolation is opened in it, and it is rejected as a
whole if one is. -/
theorem followsOpenings_of_read {start : Nat} {t after : Text} {token : Token}
    (hline : ¬ ['"', '"'] <+: t) (h : read start '"' t = .ok (token, after)) :
    ∃ body segments, t = body ++ '"' :: after ∧ token.text = '"' :: (body ++ ['"']) ∧
      token.kind = .string segments ∧ FollowsOpenings body segments ∧
      (Literal.plainString (.ofToken token) = .ok body ↔ ¬ body.HasBare opening) ∧
      (body.HasBare opening → Literal.plainString (.ofToken token) =
        .error (.located token.span .hexInterpolatedString)) := by
  obtain ⟨marks, ht, hmarks, rfl⟩ := exists_marks_of_read hline h
  have hfollows := (spells_pushMarks hmarks after).followsOpenings
  refine ⟨textOf marks, _, ht, rfl, rfl, hfollows, ⟨fun hok hopening => ?_, fun hopening => ?_⟩,
    fun hopening => hfollows.plainString_eq_error hopening _ _⟩
  · have herror := hfollows.plainString_eq_error hopening
    cases hok.symm.trans (herror _ _)
  · exact hfollows.plainString_eq_ok hopening _ _

/-- Two pieces of raw text with an interpolation between them. A backslash hides the other one in
front of the first bracket. -/
theorem followsOpenings_of_read_split :
    ¬ ['"', '"'] <+: "a\\\\\\(b)\\(c)\\\"d\")".toList ∧
      read 12 '"' "a\\\\\\(b)\\(c)\\\"d\")".toList =
        .ok (⟨.string [.plain "a\\\\".toList, .interpolation "\\(b)".toList,
          .interpolation "\\(c)".toList, .plain "\\\"d".toList],
          "\"a\\\\\\(b)\\(c)\\\"d\"".toList, 12⟩, [')']) ∧
      ∃ body segments,
        "a\\\\\\(b)\\(c)\\\"d\")".toList = body ++ '"' :: [')'] ∧
        "\"a\\\\\\(b)\\(c)\\\"d\"".toList = '"' :: (body ++ ['"']) ∧
        TokenKind.string [.plain "a\\\\".toList, .interpolation "\\(b)".toList,
          .interpolation "\\(c)".toList, .plain "\\\"d".toList] = .string segments ∧
        FollowsOpenings body segments := by
  have hread : read 12 '"' "a\\\\\\(b)\\(c)\\\"d\")".toList =
      .ok (⟨.string [.plain "a\\\\".toList, .interpolation "\\(b)".toList,
        .interpolation "\\(c)".toList, .plain "\\\"d".toList],
        "\"a\\\\\\(b)\\(c)\\\"d\"".toList, 12⟩, [')']) := by
    decide +kernel
  obtain ⟨body, segments, ht, htext, hkind, hfollows, -⟩ :=
    followsOpenings_of_read (by decide) hread
  exact ⟨by decide, hread, body, segments, ht, htext, hkind, hfollows⟩

/-- In a literal on one line, a line break stands in raw text only where a backslash hides it, and no
piece of raw text has a line break exactly if the body hides none. The literal is reported as one
that does not end exactly if its marks stop at a line break, at the end of the text or at a
backslash with nothing behind it. -/
theorem lineBreak_hidden_or_unterminated {start : Nat} {t : Text} (hline : ¬ ['"', '"'] <+: t) :
    (∀ token after, read start '"' t = .ok (token, after) →
      ∃ body segments, t = body ++ '"' :: after ∧ token.kind = .string segments ∧
        (∀ s ∈ segments, s.isInterpolation = false → ¬ s.text.HasBare ['\n']) ∧
        (HasLineBreak segments ↔ HidesLineBreak body)) ∧
    (read start '"' t = .error ⟨.unterminatedString, start⟩ ↔
      ∃ marks stop, t = textOf marks ++ stop ∧ LiteralForm.line.Holds marks stop ∧
        LiteralForm.line.BreaksOff stop) := by
  constructor
  · intro token after h
    obtain ⟨marks, ht, hmarks, rfl⟩ := exists_marks_of_read hline h
    have hspells := spells_pushMarks hmarks after
    refine ⟨textOf marks, _, ht, rfl,
      fun s hs hplain => (hspells.isRaw_contents s hs hplain).no_lineBreak, ?_⟩
    rw [LineBody.hasLineBreak_contents_iff, hasLineBreak_pushMarks hmarks]
    constructor
    · exact fun hhidden => ⟨marks, ⟨rfl, hmarks.isWellFormed⟩, hhidden⟩
    · rintro ⟨others, hread, hhidden⟩
      rwa [hread.unique ⟨rfl, hmarks.isWellFormed⟩] at hhidden
  · rw [read_eq_error_iff]
    constructor
    · rintro ⟨-, hdefect⟩
      cases hdefect with
      | @inside form _ stop marks _ hopening hmarks hstop =>
        cases form with
        | line =>
          cases hstop with
          | breaksOff hstop =>
            obtain rfl := hopening
            exact ⟨marks, stop, rfl, hmarks, hstop⟩
        | block => obtain rfl | rfl := hopening <;> exact absurd ⟨_, rfl⟩ hline
    · rintro ⟨marks, stop, rfl, hmarks, hstop⟩
      have hdead : DeadEnd .line start (start + 1 + (textOf marks).length) stop
          ⟨.unterminatedString, start⟩ := .breaksOff hstop
      exact ⟨rfl, Defect.of_line hmarks hdead⟩

/-- A literal with a hidden line break is read, so its marks do not stop in front of that. -/
theorem lineBreak_hidden_or_unterminated_hidden :
    ¬ ['"', '"'] <+: "a\\\nb\")".toList ∧
      read 12 '"' "a\\\nb\")".toList =
        .ok (⟨.string [.plain "a\\\nb".toList], "\"a\\\nb\"".toList, 12⟩, [')']) ∧
      (∃ body segments, "a\\\nb\")".toList = body ++ '"' :: [')'] ∧
        TokenKind.string [.plain "a\\\nb".toList] = .string segments ∧
        (∀ s ∈ segments, s.isInterpolation = false → ¬ s.text.HasBare ['\n']) ∧
        (HasLineBreak segments ↔ HidesLineBreak body)) ∧
      (read 12 '"' "a\\\nb\")".toList = .error ⟨.unterminatedString, 12⟩ ↔
        ∃ marks stop, "a\\\nb\")".toList = textOf marks ++ stop ∧
          LiteralForm.line.Holds marks stop ∧ LiteralForm.line.BreaksOff stop) := by
  have hread : read 12 '"' "a\\\nb\")".toList =
      .ok (⟨.string [.plain "a\\\nb".toList], "\"a\\\nb\"".toList, 12⟩, [')']) := by
    decide +kernel
  have hline : ¬ ['"', '"'] <+: "a\\\nb\")".toList := by decide
  obtain ⟨hok, herror⟩ := @lineBreak_hidden_or_unterminated 12 _ hline
  exact ⟨hline, hread, hok _ _ hread, herror⟩

/-- The literal with a hidden line break is read, and the line break is in its piece. -/
theorem hasLineBreak_hidden :
    read 12 '"' "a\\\nb\")".toList =
        .ok (⟨.string [.plain "a\\\nb".toList], "\"a\\\nb\"".toList, 12⟩, [')']) ∧
      HasLineBreak [.plain "a\\\nb".toList] :=
  ⟨by decide +kernel, _, List.mem_singleton_self _, rfl, by decide⟩

end Token

end ColorLiteral
