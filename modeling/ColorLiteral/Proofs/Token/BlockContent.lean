import ColorLiteral.Proofs.Text.LastLine
import ColorLiteral.Proofs.Token.Layout
import ColorLiteral.Proofs.Token.Mark

/-!
# What a literal in triple quotes keeps

The pieces of a literal in triple quotes make up the text between its opening line and its closing
quotes, less the blanks of a blank closing line, and each piece of raw text ends with its line
(`FollowsLines`). This holds for exactly those literals in which every line break that a backslash
hides is followed by an interpolation (`followsLines_iff`). The other ones have a piece that goes on
behind a line break, or lose the text in front of the hidden line break together with the blanks
behind it.

Both directions are inductions over the marks of the literal: what a mark in front keeps of a body
that follows its lines (`Keeps`), and what it cannot mend in one that does not (`Fails`).
-/

namespace ColorLiteral

namespace StringLiteral

open Text (endsBlank endsBlank_append endsBlank_concat endsBlank_cons endsBlank_true lastLine
  mem_of_endsBlank_false upToLastLine upToLastLine_append upToLastLine_cons_lineBreak
  upToLastLine_of_notMem count_upToLastLine)

/-! ### The part to keep -/

/-- What a literal should keep of its text: all of it, less the blanks of a blank last line. -/
def keptPart (blank : Bool) (t : Text) : Text := if endsBlank blank t then upToLastLine t else t

theorem keptPart_cons_lineBreak (blank : Bool) (t : Text) :
    keptPart blank ('\n' :: t) = '\n' :: keptPart true t := by
  rw [keptPart, keptPart, endsBlank_cons, if_pos rfl, upToLastLine_cons_lineBreak]
  split <;> rfl

/-- Behind a character that is not blank, only a later line break makes the last line blank. -/
theorem keptPart_append {blank : Bool} {s : Text} (hs : endsBlank blank s = false) (t : Text) :
    keptPart blank (s ++ t) = s ++ keptPart false t := by
  rw [keptPart, keptPart, endsBlank_append, hs]
  split
  · next hblank => exact upToLastLine_append (mem_of_endsBlank_false hblank) s
  · rfl

theorem count_keptPart (blank : Bool) (t : Text) :
    (keptPart blank t).count '\n' = t.count '\n' := by
  rw [keptPart]
  split
  · exact count_upToLastLine t
  · rfl

/-! ### What a body keeps -/

namespace BlockBody

/-- The text of the pieces. -/
def kept (b : BlockBody) : Text := b.lead.getD [] ++ b.later.flatMap Segment.text

theorem flatMap_segments (b : BlockBody) : b.segments.flatMap Segment.text = b.kept := by
  obtain ⟨_ | _ | ⟨c, lead⟩, later, rest⟩ := b <;> simp [segments, kept, Segment.plain]

theorem push_push (b : BlockBody) (s t : Text) : (b.push s).push t = b.push (t ++ s) := by
  simp [push, Function.comp_def]

theorem kept_push {t : Text} {b : BlockBody} (h : b.lead ≠ none) :
    (b.push t).kept = t ++ b.kept := by
  obtain ⟨lead, hlead⟩ := Option.ne_none_iff_exists'.1 h
  simp [push, kept, hlead]

theorem kept_push_of_lead_eq_none {t : Text} {b : BlockBody} (h : b.lead = none) :
    (b.push t).kept = b.kept := by
  simp [push, kept, h]

@[simp] theorem kept_pushInterpolation (t : Text) (b : BlockBody) :
    (b.pushInterpolation t).kept = t ++ b.kept := by
  simp [pushInterpolation, kept, Segment.interpolation, flatMap_segments]

@[simp] theorem kept_pushLineBreak (b : BlockBody) : b.pushLineBreak.kept = '\n' :: b.kept := by
  simp [pushLineBreak, kept, flatMap_segments]

/-- What a body keeps stays a part of its text. -/
theorem kept_push_sublist {s t : Text} {b : BlockBody} (h : b.kept.Sublist t) :
    (b.push s).kept.Sublist (s ++ t) := by
  by_cases hlead : b.lead = none
  · rw [kept_push_of_lead_eq_none hlead]
    exact h.trans (List.sublist_append_right s t)
  · rw [kept_push hlead]
    exact h.append_left s

/-- No piece of raw text goes on behind a line break. -/
structure IsTidy (b : BlockBody) : Prop where
  lead : ∀ lead, b.lead = some lead → '\n' ∉ lead.dropLast
  later : ∀ s ∈ b.later, s.isInterpolation = false → '\n' ∉ s.text.dropLast

theorem isTidy_iff (b : BlockBody) :
    b.IsTidy ↔ ∀ s ∈ b.segments, s.isInterpolation = false → '\n' ∉ s.text.dropLast := by
  obtain ⟨lead, later, rest⟩ := b
  constructor
  · rintro ⟨hlead, hlater⟩
    rcases lead with _ | _ | ⟨c, lead⟩
    · exact hlater
    · exact hlater
    · exact List.forall_mem_cons.2 ⟨fun _ => hlead _ rfl, hlater⟩
  · intro h
    rcases lead with _ | _ | ⟨c, lead⟩
    · exact ⟨by simp, h⟩
    · exact ⟨by simp, h⟩
    · obtain ⟨hfirst, hlater⟩ := List.forall_mem_cons.1 h
      exact ⟨fun _ heq => Option.some.inj heq ▸ hfirst rfl, hlater⟩

theorem isTidy_pushInterpolation_iff (t : Text) (b : BlockBody) :
    (b.pushInterpolation t).IsTidy ↔ b.IsTidy := by
  rw [b.isTidy_iff, isTidy_iff, pushInterpolation]
  simp [segments, Segment.interpolation]

theorem isTidy_pushLineBreak_iff (b : BlockBody) : b.pushLineBreak.IsTidy ↔ b.IsTidy := by
  rw [b.isTidy_iff, isTidy_iff, pushLineBreak]
  simp [segments, Segment.plain]

/-- A body in front of which raw text is put is tidy only if it was. -/
theorem IsTidy.of_push {t : Text} {b : BlockBody} (h : (b.push t).IsTidy) : b.IsTidy := by
  refine ⟨fun lead hlead hmem => ?_, h.later⟩
  have hne : lead ≠ [] := by rintro rfl; cases hmem
  refine h.lead (t ++ lead) (by simp [push, hlead]) ?_
  rw [List.dropLast_append_of_ne_nil hne]
  exact List.mem_append_right t hmem

/-- A character other than a line break leaves a body tidy. -/
theorem IsTidy.push {c : Char} (hc : c ≠ '\n') {b : BlockBody} (h : b.IsTidy) :
    (b.push [c]).IsTidy := by
  refine ⟨fun lead hlead => ?_, h.later⟩
  obtain ⟨tail, htail, rfl⟩ := Option.map_eq_some_iff.1 hlead
  have hinner := h.lead tail htail
  cases tail with
  | nil => simp
  | cons d tail => simpa [hc.symm] using hinner

end BlockBody

/-! ### Bodies that follow their lines -/

/-- A body keeps a text as it should. -/
structure Keeps (blank : Bool) (t : Text) (b : BlockBody) : Prop where
  lead_eq_none_iff : b.lead = none ↔ endsBlank blank t = true ∧ '\n' ∉ t
  kept_eq : b.kept = keptPart blank t
  isTidy : b.IsTidy

theorem keeps_nil (blank : Bool) (rest : Text) :
    Keeps blank [] ⟨if blank then none else some [], [], rest⟩ := by
  cases blank with
  | true => exact ⟨by simp [endsBlank], rfl, by simp, by simp⟩
  | false => exact ⟨by simp [endsBlank], rfl, by simp, by simp⟩

/-- A character other than a line break in front of a text. -/
theorem Keeps.push {blank : Bool} {c : Char} (hc : c ≠ '\n') {t : Text} {b : BlockBody}
    (h : Keeps (blank && Text.isBlank c) t b) : Keeps blank (c :: t) (b.push [c]) := by
  have hends : endsBlank blank (c :: t) = endsBlank (blank && Text.isBlank c) t := by
    rw [endsBlank_cons, if_neg hc]
  refine ⟨?_, ?_, h.isTidy.push hc⟩
  · rw [BlockBody.push, Option.map_eq_none_iff, h.lead_eq_none_iff, hends, List.mem_cons]
    simp [hc.symm]
  · by_cases hlead : b.lead = none
    · -- Only blanks follow, and the character is dropped with them.
      obtain ⟨hblank, hbreak⟩ := h.lead_eq_none_iff.1 hlead
      have hcons : '\n' ∉ c :: t := by simp [hc.symm, hbreak]
      rw [BlockBody.kept_push_of_lead_eq_none hlead, h.kept_eq, keptPart, keptPart, hends,
        if_pos hblank, if_pos hblank, upToLastLine_of_notMem hbreak,
        upToLastLine_of_notMem hcons]
    · rw [BlockBody.kept_push hlead, h.kept_eq, keptPart, keptPart, hends]
      split
      · next hblank =>
        have hbreak : '\n' ∈ t := by
          by_contra hbreak
          exact hlead (h.lead_eq_none_iff.2 ⟨hblank, hbreak⟩)
        exact (upToLastLine_append hbreak [c]).symm
      · rfl

/-- An interpolation in front of a text, or anything else that does not end with blanks. -/
theorem Keeps.pushInterpolation {blank : Bool} {s : Text} (hs : endsBlank blank s = false)
    {t : Text} {b : BlockBody} (h : Keeps false t b) :
    Keeps blank (s ++ t) (b.pushInterpolation s) := by
  refine ⟨⟨nofun, ?_⟩, ?_, (b.isTidy_pushInterpolation_iff s).2 h.isTidy⟩
  · rintro ⟨hblank, hbreak⟩
    rw [endsBlank_append, hs] at hblank
    exact absurd (List.mem_append_right s (mem_of_endsBlank_false hblank)) hbreak
  · rw [BlockBody.kept_pushInterpolation, h.kept_eq, keptPart_append hs]

/-- A line break in front of a text. -/
theorem Keeps.pushLineBreak {blank : Bool} {t : Text} {b : BlockBody} (h : Keeps true t b) :
    Keeps blank ('\n' :: t) b.pushLineBreak := by
  refine ⟨⟨nofun, ?_⟩, ?_, b.isTidy_pushLineBreak_iff.2 h.isTidy⟩
  · rintro ⟨-, hbreak⟩
    exact absurd List.mem_cons_self hbreak
  · rw [BlockBody.kept_pushLineBreak, h.kept_eq, keptPart_cons_lineBreak]

/-- A hidden character other than a line break in front of a text. -/
theorem Keeps.pushHidden {blank : Bool} {c : Char} (hc : c ≠ '\n') {t : Text} {b : BlockBody}
    (h : Keeps false t b) : Keeps blank ('\\' :: c :: t) (b.push ['\\', c]) := by
  have hflag : (blank && Text.isBlank '\\' && Text.isBlank c) = false := by
    rw [show Text.isBlank '\\' = false by decide, Bool.and_false, Bool.false_and]
  have hchar : Keeps (blank && Text.isBlank '\\') (c :: t) (b.push [c]) :=
    Keeps.push hc (hflag ▸ h)
  exact BlockBody.push_push b [c] ['\\'] ▸ hchar.push (by decide)

theorem endsBlank_backslash (blank : Bool) : endsBlank blank ['\\'] = false := by
  cases blank <;> decide

/-- A hidden line break in front of a body that starts with a piece of its own. -/
theorem Keeps.pushHiddenBreak {blank : Bool} {t : Text} {b : BlockBody} (hlead : b.lead = some [])
    (h : Keeps true t b) : Keeps blank ('\\' :: '\n' :: t) (b.push ['\\', '\n']) := by
  have hpush : (b.push ['\\', '\n']).lead = some ['\\', '\n'] := by simp [BlockBody.push, hlead]
  refine ⟨?_, ?_, ⟨fun lead heq => ?_, h.isTidy.later⟩⟩
  · simp [hpush]
  · have hkept := keptPart_append (endsBlank_backslash blank) ('\n' :: t)
    rw [BlockBody.kept_push (by simp [hlead]), h.kept_eq]
    rw [List.singleton_append, keptPart_cons_lineBreak] at hkept
    exact hkept.symm
  · rw [hpush] at heq
    cases heq
    decide

/-- Some marks have a hidden line break that no interpolation follows. -/
def HasHiddenBreak (marks : List Mark) : Prop :=
  ∃ before behind, marks = before ++ .hidden '\n' :: behind ∧
    ∀ inside later, behind ≠ .interpolation inside :: later

theorem HasHiddenBreak.cons {marks : List Mark} (h : HasHiddenBreak marks) (mark : Mark) :
    HasHiddenBreak (mark :: marks) := by
  obtain ⟨before, behind, rfl, hbehind⟩ := h
  exact ⟨mark :: before, behind, rfl, hbehind⟩

theorem endsBlank_interpolation {inside : Text}
    (h : (Mark.interpolation inside).IsWellFormed) (blank : Bool) :
    endsBlank blank ('\\' :: '(' :: inside) = false := by
  obtain ⟨front, hfront⟩ := Interpolation.exists_eq_concat_of_splitFrom h
  rw [hfront, ← List.cons_append, endsBlank_concat, if_neg (by decide),
    show Text.isBlank ')' = false by decide, Bool.and_false]

/-- Without a hidden line break that no interpolation follows, a body keeps its text as it
should. -/
theorem keeps_assemble {marks : List Mark} (hwell : ∀ mark ∈ marks, mark.IsWellFormed)
    (hhidden : ¬ HasHiddenBreak marks) (blank : Bool) (rest : Text) :
    Keeps blank (textOf marks) (assemble blank rest marks) := by
  induction marks generalizing blank with
  | nil => exact keeps_nil blank rest
  | cons mark marks ih =>
    rw [List.forall_mem_cons] at hwell
    have hkeeps := ih hwell.2 fun h => hhidden (h.cons mark)
    cases mark with
    | interpolation inside =>
      exact (hkeeps false).pushInterpolation (endsBlank_interpolation hwell.1 blank)
    | hidden c =>
      by_cases hc : c = '\n'
      · subst hc
        -- Nothing but an interpolation can follow, and it starts a piece of its own.
        cases marks with
        | nil => exact absurd ⟨[], [], rfl, by simp⟩ hhidden
        | cons next marks =>
          cases next with
          | interpolation inside => exact (hkeeps true).pushHiddenBreak rfl
          | _ => exact absurd ⟨[], _, rfl, by simp⟩ hhidden
      · rw [assemble, beq_eq_false_iff_ne.2 hc]
        exact (hkeeps false).pushHidden hc
    | lineBreak => exact (hkeeps true).pushLineBreak
    | plain c => exact (hkeeps _).push hwell.1.2

/-! ### Bodies that do not -/

/-- A body is not tidy, or it has lost a line break of its text. -/
def Fails (t : Text) (b : BlockBody) : Prop := b.IsTidy → b.kept.count '\n' < t.count '\n'

theorem Fails.push {t : Text} {b : BlockBody} (h : Fails t b) (s : Text) :
    Fails (s ++ t) (b.push s) := by
  intro htidy
  have hlost := h htidy.of_push
  rw [List.count_append]
  by_cases hlead : b.lead = none
  · rw [BlockBody.kept_push_of_lead_eq_none hlead]
    omega
  · rw [BlockBody.kept_push hlead, List.count_append]
    omega

theorem Fails.pushInterpolation {t : Text} {b : BlockBody} (h : Fails t b) (s : Text) :
    Fails (s ++ t) (b.pushInterpolation s) := by
  intro htidy
  have hlost := h ((b.isTidy_pushInterpolation_iff s).1 htidy)
  rw [BlockBody.kept_pushInterpolation, List.count_append, List.count_append]
  omega

theorem Fails.pushLineBreak {t : Text} {b : BlockBody} (h : Fails t b) :
    Fails ('\n' :: t) b.pushLineBreak := by
  intro htidy
  have hlost := h (b.isTidy_pushLineBreak_iff.1 htidy)
  rw [BlockBody.kept_pushLineBreak, List.count_cons, List.count_cons]
  omega

/-- No marks in front of a body that fails can mend it. -/
theorem Fails.assemble_append {before behind : List Mark} {rest : Text}
    (h : ∀ blank, Fails (textOf behind) (assemble blank rest behind)) (blank : Bool) :
    Fails (textOf (before ++ behind)) (assemble blank rest (before ++ behind)) := by
  induction before generalizing blank with
  | nil => exact h blank
  | cons mark before ih =>
    cases mark with
    | interpolation inside => exact (ih false).pushInterpolation _
    | hidden c => exact (ih _).push _
    | lineBreak => exact (ih true).pushLineBreak
    | plain c => exact (ih _).push _

theorem kept_assemble_sublist (blank : Bool) (rest : Text) (marks : List Mark) :
    (assemble blank rest marks).kept.Sublist (textOf marks) := by
  induction marks generalizing blank with
  | nil => cases blank <;> simp [assemble, BlockBody.kept]
  | cons mark marks ih =>
    cases mark with
    | interpolation inside =>
      rw [assemble, BlockBody.kept_pushInterpolation]
      exact (ih false).append_left _
    | hidden c => exact BlockBody.kept_push_sublist (ih _)
    | lineBreak =>
      rw [assemble, BlockBody.kept_pushLineBreak]
      exact (ih true).cons_cons '\n'
    | plain c => exact BlockBody.kept_push_sublist (ih _)

/-- Only an interpolation starts with a piece of its own. -/
theorem lead_assemble_ne_nil {marks : List Mark}
    (h : ∀ inside later, marks ≠ .interpolation inside :: later) (rest : Text) :
    (assemble true rest marks).lead ≠ some [] := by
  cases marks with
  | nil => simp [assemble]
  | cons mark marks =>
    cases mark with
    | interpolation inside => exact absurd rfl (h inside marks)
    | hidden | plain => simp [assemble, BlockBody.push]
    | lineBreak => simp [assemble, BlockBody.pushLineBreak]

/-- A hidden line break that no interpolation follows stands inside of a piece, or is lost with the
blanks of the last line. -/
theorem fails_hiddenBreak {behind : List Mark}
    (h : ∀ inside later, behind ≠ .interpolation inside :: later) (rest : Text) (blank : Bool) :
    Fails (textOf (.hidden '\n' :: behind)) (assemble blank rest (.hidden '\n' :: behind)) := by
  intro htidy
  change ((assemble true rest behind).push ['\\', '\n']).IsTidy at htidy
  change ((assemble true rest behind).push ['\\', '\n']).kept.count '\n' <
    ('\\' :: '\n' :: textOf behind).count '\n'
  have hne := lead_assemble_ne_nil h rest
  cases hlead : (assemble true rest behind).lead with
  | none =>
    -- The lead is dropped with the blanks in front of the quotes, and the hidden break with it.
    have hle := (kept_assemble_sublist true rest behind).count_le '\n'
    rw [BlockBody.kept_push_of_lead_eq_none hlead]
    simp only [List.count_cons, beq_self_eq_true, if_true]
    omega
  | some lead =>
    cases lead with
    | nil => exact absurd hlead hne
    | cons c lead =>
      -- The lead goes on behind the hidden break.
      have hinner := htidy.lead ('\\' :: '\n' :: c :: lead) (by simp [BlockBody.push, hlead])
      exact absurd (by simp) hinner

theorem fails_assemble {marks : List Mark} (h : HasHiddenBreak marks) (blank : Bool)
    (rest : Text) : Fails (textOf marks) (assemble blank rest marks) := by
  obtain ⟨before, behind, rfl, hbehind⟩ := h
  exact Fails.assemble_append (fails_hiddenBreak hbehind rest) blank

/-! ### Literals and their lines -/

/-- The pieces of a literal make up its content, less the blanks of a blank closing line, and no
piece of raw text goes on behind a line break. -/
structure FollowsLines (content : Text) (segments : List Segment) : Prop where
  flatMap_text : segments.flatMap Segment.text =
    if (lastLine content).all Text.isBlank then upToLastLine content else content
  notMem_dropLast : ∀ s ∈ segments, s.isInterpolation = false → '\n' ∉ s.text.dropLast

/-- A content has a hidden line break that no interpolation follows. -/
def HidesBreak (content : Text) : Prop := ∃ marks, IsReadAs content marks ∧ HasHiddenBreak marks

theorem Keeps.followsLines {content : Text} {b : BlockBody} (h : Keeps true content b) :
    FollowsLines content b.segments := by
  refine ⟨?_, b.isTidy_iff.1 h.isTidy⟩
  rw [b.flatMap_segments, h.kept_eq, keptPart, endsBlank_true]

theorem Fails.not_followsLines {content : Text} {b : BlockBody} (h : Fails content b) :
    ¬ FollowsLines content b.segments := by
  rintro ⟨htext, htidy⟩
  rw [b.flatMap_segments, ← endsBlank_true] at htext
  have hlost := h (b.isTidy_iff.2 htidy)
  rw [htext, ← keptPart, count_keptPart] at hlost
  exact Nat.lt_irrefl _ hlost

/-- A literal in triple quotes follows its lines unless it hides a line break. -/
theorem exists_content_of_readBlock {start offset : Nat} {t : Text} {b : BlockBody}
    (h : readBlock start offset true t = .ok b) :
    ∃ content, t = content ++ '"' :: '"' :: '"' :: b.rest ∧
      (FollowsLines content b.segments ↔ ¬ HidesBreak content) := by
  obtain ⟨marks, ht, hwell, hb⟩ := exists_marks_of_readBlock h
  refine ⟨textOf marks, ht, fun hfollows hhides => ?_, fun hhides => ?_⟩
  · obtain ⟨others, hread, hbreak⟩ := hhides
    obtain rfl := hread.unique ⟨rfl, hwell⟩
    exact (hb ▸ fails_assemble hbreak true b.rest : Fails _ b).not_followsLines hfollows
  · have hbreak : ¬ HasHiddenBreak marks := fun hbreak => hhides ⟨marks, ⟨rfl, hwell⟩, hbreak⟩
    exact (hb ▸ keeps_assemble hwell hbreak true b.rest : Keeps true _ b).followsLines

/-- Behind an opening line, a literal in triple quotes has a content, whose lines it follows unless
the content hides a line break. -/
theorem exists_content_of_read {start : Nat} {t : Text} {contents : Contents}
    (h : read start ('"' :: '"' :: t) = .ok contents) :
    ∃ lineBreak content, (lineBreak = ['\n'] ∨ lineBreak = ['\r', '\n']) ∧
      t = lineBreak ++ content ++ '"' :: '"' :: '"' :: contents.2 ∧
      (FollowsLines content contents.1 ↔ ¬ HidesBreak content) := by
  rw [read.eq_def] at h
  split at h
  · next rest heq =>
    obtain ⟨body, hbody, rfl⟩ := Outcome.exists_of_map_eq_ok h
    obtain ⟨content, hcontent, hiff⟩ := exists_content_of_readBlock hbody
    cases heq
    exact ⟨['\n'], content, .inl rfl, congrArg _ hcontent, hiff⟩
  · next rest heq =>
    obtain ⟨body, hbody, rfl⟩ := Outcome.exists_of_map_eq_ok h
    obtain ⟨content, hcontent, hiff⟩ := exists_content_of_readBlock hbody
    cases heq
    exact ⟨['\r', '\n'], content, .inr rfl, congrArg (['\r', '\n'] ++ ·) hcontent, hiff⟩
  · cases h
  · next hquotes => exact absurd rfl (hquotes t)

end StringLiteral

namespace Token

open StringLiteral

/-- The text of a literal in triple quotes is its opening line, its content and the closing quotes,
and its pieces follow the lines of the content unless this hides a line break. -/
theorem followsLines_iff {start : Nat} {t after : Text} {token : Token}
    (h : read start '"' ('"' :: '"' :: t) = .ok (token, after)) :
    ∃ lineBreak content segments, (lineBreak = ['\n'] ∨ lineBreak = ['\r', '\n']) ∧
      token.text = "\"\"\"".toList ++ lineBreak ++ content ++ "\"\"\"".toList ∧
      token.kind = .string segments ∧
      (FollowsLines content segments ↔ ¬ HidesBreak content) := by
  obtain ⟨htext, -, -⟩ := read_extent (by decide) h
  rw [read, if_pos rfl] at h
  obtain ⟨contents, hcontents, heq⟩ := Outcome.exists_of_map_eq_ok h
  obtain ⟨lineBreak, content, hopening, ht, hiff⟩ := exists_content_of_read hcontents
  obtain ⟨hkind, hafter⟩ : token.kind = .string contents.1 ∧ after = contents.2 := by
    cases heq
    exact ⟨rfl, rfl⟩
  refine ⟨lineBreak, content, contents.1, hopening, ?_, hkind, hiff⟩
  refine (List.append_left_inj after).1 ?_
  rw [← htext, ht, hafter]
  simp

/-- A hidden line break in front of an interpolation, and a closing line of blanks. -/
theorem followsLines_iff_indented :
    read 7 '"' "\"\"\n  a\\\n\\(b\n)c\n  \"\"\")".toList =
        .ok (⟨.string [.plain "  a\\\n".toList, .interpolation "\\(b\n)".toList,
          .plain "c\n".toList], "\"\"\"\n  a\\\n\\(b\n)c\n  \"\"\"".toList, 7⟩, [')']) ∧
      ∃ lineBreak content segments, (lineBreak = ['\n'] ∨ lineBreak = ['\r', '\n']) ∧
        "\"\"\"\n  a\\\n\\(b\n)c\n  \"\"\"".toList =
          "\"\"\"".toList ++ lineBreak ++ content ++ "\"\"\"".toList ∧
        TokenKind.string [.plain "  a\\\n".toList, .interpolation "\\(b\n)".toList,
          .plain "c\n".toList] = .string segments ∧
        (FollowsLines content segments ↔ ¬ HidesBreak content) := by
  have hread : read 7 '"' "\"\"\n  a\\\n\\(b\n)c\n  \"\"\")".toList =
      .ok (⟨.string [.plain "  a\\\n".toList, .interpolation "\\(b\n)".toList,
        .plain "c\n".toList], "\"\"\"\n  a\\\n\\(b\n)c\n  \"\"\"".toList, 7⟩, [')']) := by
    decide +kernel
  exact ⟨hread, followsLines_iff hread⟩

/-- The line in front of a hidden line break is lost when the closing quotes follow. -/
theorem not_followsLines_hidden_break :
    read 0 '"' "\"\"\nabc\\\n\"\"\"".toList =
        .ok (⟨.string [], "\"\"\"\nabc\\\n\"\"\"".toList, 0⟩, []) ∧
      ¬ FollowsLines "abc\\\n".toList [] := by
  refine ⟨by decide +kernel, fun h => ?_⟩
  have htext := h.flatMap_text
  revert htext
  decide

end Token

end ColorLiteral
