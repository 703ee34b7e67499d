import ColorLiteral.Proofs.Invocation.Spans
import ColorLiteral.Proofs.Outcome
import ColorLiteral.Proofs.Token.Relaid

/-!
# Parsing under another layout

Two texts that hold the same tokens between other blanks are parsed alike (`parse_alike`): both are
refused for the same fault, or both give invocations that differ in the spans only. The one text
that may change with the blanks is that of an expression of no known shape, which covers several
tokens and what stands between them; its visible characters stay.

Every function between the tokens and the invocation is run on two lists of tokens that are moved
(`MovedIn`). A machine that splits such lists stays in the same state (`splitRuns_moved`), and two
moved runs spell arguments that are alike (`argumentOfRun_moved`).
-/

namespace ColorLiteral

open Text (visible)

/-! ### Invocations that are alike -/

/-- Two expressions differ in their places only, or they are of no known shape and have the same
visible characters. -/
inductive Expr.Alike : Expr → Expr → Prop
  | integer {t : Text} {s s' : Span} : Alike (.integer t s) (.integer t s')
  | float {t : Text} {s s' : Span} : Alike (.float t s) (.float t s')
  | prefixed {t operator : Text} {s s' : Span} {operand operand' : Expr}
      (htext : operand.text = operand'.text) (hoperand : Alike operand operand') :
      Alike (.prefixed t s operator operand) (.prefixed t s' operator operand')
  | string {t : Text} {s s' : Span} {segments : List Segment} :
      Alike (.string t s segments) (.string t s' segments)
  | other {t t' : Text} {s s' : Span} (hvisible : visible t = visible t') :
      Alike (.other t s) (.other t' s')

/-- Two arguments have the same label and expressions that are alike. -/
structure Argument.Alike (a a' : Argument) : Prop where
  label : a.label?.map Label.text = a'.label?.map Label.text
  expr : a.expr.Alike a'.expr

/-- Two invocations have the same name and arguments that are alike, in the same order. -/
structure Invocation.Alike (i i' : Invocation) : Prop where
  name : i.name = i'.name
  arguments : List.Forall₂ Argument.Alike i.arguments i'.arguments

/-- Two texts are refused for the same reason. -/
def ParseError.SameFault (e e' : ParseError) : Prop := e.fault = e'.fault

namespace Token

/-! ### Moved tokens -/

variable {offset offset' : Nat} {token token' : Token} {tokens tokens' : List Token}

theorem Moved.length_eq (h : Moved offset offset' tokens tokens') :
    tokens'.length = tokens.length := by
  induction h with
  | nil => rfl
  | cons _ _ _ _ ih => rw [List.length_cons, List.length_cons, ih]

theorem Moved.flatMap_text (h : Moved offset offset' tokens tokens') :
    tokens'.flatMap Token.text = tokens.flatMap Token.text := by
  induction h with
  | nil => rfl
  | cons _ htext _ _ ih => rw [List.flatMap_cons, List.flatMap_cons, htext, ih]

theorem Moved.append {first first' rest rest' : List Token}
    (h : Moved offset offset' (first ++ rest) (first' ++ rest'))
    (hlength : first'.length = first.length) :
    Moved offset offset' first first' ∧ ∃ start start', Moved start start' rest rest' := by
  induction first generalizing offset offset' first' with
  | nil =>
    obtain rfl := List.length_eq_zero_iff.1 hlength
    exact ⟨.nil, _, _, h⟩
  | cons token first ih =>
    obtain ⟨token', first', rfl⟩ := List.exists_cons_of_length_eq_add_one hlength
    rw [List.cons_append, List.cons_append] at h
    cases h with
    | cons hkind htext htouch hrest =>
      obtain ⟨hfirst, hbehind⟩ := ih hrest (by simpa using hlength)
      exact ⟨.cons hkind htext htouch hfirst, hbehind⟩

/-- Tokens make up the visible part of the text in which they lie. -/
theorem Layout.visible_eq {t : Text} (h : Layout offset t tokens) :
    visible t = visible (tokens.flatMap Token.text) := by
  induction h with
  | nil hblanks => exact Text.visible_eq_nil hblanks
  | cons hblanks _ _ _ ih =>
    rw [List.flatMap_cons, Text.visible_append, Text.visible_append, Text.visible_append,
      Text.visible_eq_nil hblanks, ih, List.nil_append]

/-- Tokens of two sources are the same but for their places. -/
structure MovedIn (source source' : Text) (tokens tokens' : List Token) : Prop where
  moved : ∃ offset offset', Moved offset offset' tokens tokens'
  placed : ∃ offset t, Placed source offset t tokens
  placed' : ∃ offset t, Placed source' offset t tokens'

namespace MovedIn

variable {source source' : Text}

theorem length_eq (h : MovedIn source source' tokens tokens') : tokens'.length = tokens.length :=
  let ⟨_, _, hmoved⟩ := h.moved
  hmoved.length_eq

theorem append {first first' rest rest' : List Token}
    (h : MovedIn source source' (first ++ rest) (first' ++ rest'))
    (hlength : first'.length = first.length) :
    MovedIn source source' first first' ∧ MovedIn source source' rest rest' := by
  obtain ⟨⟨_, _, hmoved⟩, ⟨_, _, hplaced⟩, _, _, hplaced'⟩ := h
  obtain ⟨hfirst, _, _, hrest⟩ := hmoved.append hlength
  obtain ⟨_, _, -, hfirstPlaced, hrestPlaced⟩ := hplaced.append
  obtain ⟨_, _, -, hfirstPlaced', hrestPlaced'⟩ := hplaced'.append
  exact ⟨⟨⟨_, _, hfirst⟩, ⟨_, _, hfirstPlaced⟩, _, _, hfirstPlaced'⟩,
    ⟨_, _, hrest⟩, ⟨_, _, hrestPlaced⟩, _, _, hrestPlaced'⟩

/-- The first token of a moved list, and the list behind it. -/
theorem exists_cons (h : MovedIn source source' (token :: tokens) tokens') :
    ∃ token' rest', tokens' = token' :: rest' ∧ token'.kind = token.kind ∧
      token'.text = token.text ∧ MovedIn source source' tokens rest' := by
  obtain ⟨token', rest', rfl⟩ := List.exists_cons_of_length_eq_add_one h.length_eq
  have hsplit : MovedIn source source' ([token] ++ tokens) ([token'] ++ rest') := h
  have hrest := (hsplit.append rfl).2
  obtain ⟨⟨_, _, hmoved⟩, -, -⟩ := h
  cases hmoved with
  | cons hkind htext _ _ => exact ⟨token', rest', rfl, hkind, htext, hrest⟩

/-- Two tokens behind each other touch in both sources or in neither. -/
theorem touch_iff {second second' : Token}
    (h : MovedIn source source' (token :: second :: tokens) (token' :: second' :: tokens')) :
    second'.start = token'.stop ↔ second.start = token.stop := by
  obtain ⟨⟨_, _, hmoved⟩, -, -⟩ := h
  cases hmoved with
  | cons _ _ _ hrest =>
    cases hrest with
    | cons _ _ htouch _ => exact htouch

end MovedIn

/-! ### Expressions of moved tokens -/

theorem alike_ofToken (hkind : token'.kind = token.kind) (htext : token'.text = token.text) :
    (Expr.ofToken token).Alike (Expr.ofToken token') := by
  unfold Expr.ofToken
  rw [hkind, htext]
  cases token.kind with
  | integer => exact .integer
  | float => exact .float
  | string => exact .string
  | identifier | operator | punctuation => exact .other rfl

theorem Placed.visible_text_ofRun {source t : Text}
    (h : Placed source offset t (token :: tokens)) :
    visible (Expr.ofRun source token tokens).text =
      visible ((token :: tokens).flatMap Token.text) := by
  obtain ⟨out, hcut, hout⟩ := h.cut_ofRun
  generalize hpieces : [((Expr.ofRun source token tokens).span,
    (Expr.ofRun source token tokens).text)] = pieces at hcut
  rw [← h.layout.visible_eq]
  cases hcut with
  | rest => cases hpieces
  | piece _ hbehind =>
    obtain ⟨hpiece, rfl⟩ := List.cons.inj hpieces
    cases hbehind with
    | rest =>
      rw [Text.visible_append, List.append_eq_nil_iff] at hout
      rw [Text.visible_append, Text.visible_append, hout.1, hout.2, List.nil_append,
        List.append_nil]
      exact congrArg (visible ·.2) hpiece

/-- Moved runs give expressions that are alike. -/
theorem MovedIn.alike_ofRun {source source' : Text} {rest rest' : List Token}
    (h : MovedIn source source' (token :: rest) (token' :: rest')) :
    (Expr.ofRun source token rest).Alike (Expr.ofRun source' token' rest') := by
  obtain ⟨_, _, heq, hkind, htext, hrest⟩ := h.exists_cons
  obtain ⟨rfl, rfl⟩ := List.cons.inj heq
  obtain ⟨_, _, hplaced⟩ := h.placed
  obtain ⟨_, _, hplaced'⟩ := h.placed'
  have hvisible : visible (Expr.ofRun source token rest).text =
      visible (Expr.ofRun source' token' rest').text := by
    obtain ⟨⟨_, _, hmoved⟩, -, -⟩ := h
    rw [hplaced.visible_text_ofRun, hplaced'.visible_text_ofRun, hmoved.flatMap_text]
  match rest, hrest with
  | [], hrest =>
    obtain rfl := List.length_eq_zero_iff.1 hrest.length_eq
    exact alike_ofToken hkind htext
  | [operand], hrest =>
    obtain ⟨operand', others, rfl, hoperandKind, hoperandText, hothers⟩ := hrest.exists_cons
    obtain rfl := List.length_eq_zero_iff.1 hothers.length_eq
    have htouch := h.touch_iff
    by_cases hprefix : token.kind = .operator ∧ token.stop = operand.start
    · have hprefix' := (htouch.2 hprefix.2.symm).symm
      rw [Expr.ofRun_of_touch hprefix.1 hprefix.2 hplaced.isPrefixExact_ofRun,
        Expr.ofRun_of_touch (hkind.trans hprefix.1) hprefix' hplaced'.isPrefixExact_ofRun,
        htext, hoperandText]
      refine .prefixed ?_ (alike_ofToken hoperandKind hoperandText)
      rw [Expr.text_ofToken, Expr.text_ofToken, hoperandText]
    · have hprefix' : ¬ (token'.kind = .operator ∧ token'.stop = operand'.start) :=
        fun h' => hprefix ⟨hkind.symm.trans h'.1, (htouch.1 h'.2.symm).symm⟩
      simp only [Expr.ofRun, if_neg hprefix] at hvisible ⊢
      simp only [if_neg hprefix'] at hvisible ⊢
      exact .other hvisible
  | second :: third :: others, hrest =>
    obtain ⟨second', rest', rfl, -, -, hrest⟩ := hrest.exists_cons
    obtain ⟨third', rest', rfl, -, -, -⟩ := hrest.exists_cons
    exact .other hvisible

end Token

namespace Invocation

open Outcome (Related)
open ParseError (SameFault)
open Token (MovedIn)

variable {source source' : Text}

/-! ### Runs and arguments -/

/-- The machine splits two moved lists in the same way. -/
theorem splitRuns_moved {openAt openAt' : Nat} {stack : List Char}
    {runs runs' : List (List Token)} {run run' tokens tokens' : List Token}
    (hruns : List.Forall₂ (MovedIn source source') runs runs')
    (hlength : run'.length = run.length)
    (htokens : MovedIn source source' (run ++ tokens) (run' ++ tokens')) :
    Related SameFault
      (fun result result' => List.Forall₂ (MovedIn source source') result.1 result'.1 ∧
        result'.2.length = result.2.length)
      (splitRuns openAt stack runs run tokens) (splitRuns openAt' stack runs' run' tokens') := by
  induction tokens generalizing stack runs runs' run run' tokens' with
  | nil =>
    obtain rfl := List.length_eq_zero_iff.1 (htokens.append hlength).2.length_eq
    exact .error rfl
  | cons token rest ih =>
    obtain ⟨hrun, hrest⟩ := htokens.append hlength
    obtain ⟨token', rest', rfl, hkind, -, hbehind⟩ := hrest.exists_cons
    have hempty : run'.isEmpty = run.isEmpty := by
      rw [Bool.eq_iff_iff, List.isEmpty_iff_length_eq_zero, List.isEmpty_iff_length_eq_zero,
        hlength]
    have hnone : runs'.isEmpty = runs.isEmpty := by
      rw [Bool.eq_iff_iff, List.isEmpty_iff_length_eq_zero, List.isEmpty_iff_length_eq_zero,
        hruns.length_eq]
    -- The token joins the run under way, or it completes the run.
    have hjoin (stack : List Char) : Related SameFault
        (fun result result' => List.Forall₂ (MovedIn source source') result.1 result'.1 ∧
          result'.2.length = result.2.length)
        (splitRuns openAt stack runs (run ++ [token]) rest)
        (splitRuns openAt' stack runs' (run' ++ [token']) rest') :=
      ih hruns (by simp [hlength]) (by simpa using htokens)
    have hcomplete := List.rel_append hruns (.cons hrun .nil)
    rw [splitRuns, splitRuns, hkind]
    cases token.kind with
    | integer | float | string | identifier | operator => exact hjoin stack
    | punctuation c =>
      cases hcloser : closerOf? c with
      | some closer => simpa only [hcloser] using hjoin (closer :: stack)
      | none =>
        simp only [hcloser, hempty, hnone]
        by_cases hc : isCloser c = true
        · rw [if_pos hc, if_pos hc]
          cases stack with
          | nil =>
            by_cases hparen : c ≠ ')'
            · rw [if_pos hparen, if_pos hparen]
              exact .error rfl
            rw [if_neg hparen, if_neg hparen]
            by_cases hsome : (!run.isEmpty) = true
            · rw [if_pos hsome, if_pos hsome]
              exact .ok ⟨hcomplete, hbehind.length_eq⟩
            rw [if_neg hsome, if_neg hsome]
            by_cases hmore : (!runs.isEmpty) = true
            · rw [if_pos hmore, if_pos hmore]
              exact .error rfl
            rw [if_neg hmore, if_neg hmore]
            exact .ok ⟨.nil, hbehind.length_eq⟩
          | cons closer stack =>
            by_cases hother : closer ≠ c
            · simp only [if_pos hother]
              exact .error rfl
            · simp only [if_neg hother]
              exact hjoin stack
        · rw [if_neg hc, if_neg hc]
          by_cases hcomma : c = ',' ∧ stack = []
          · rw [if_pos hcomma, if_pos hcomma]
            by_cases hsome : run.isEmpty = true
            · rw [if_pos hsome, if_pos hsome]
              exact .error rfl
            · rw [if_neg hsome, if_neg hsome]
              exact ih hcomplete rfl hbehind
          · rw [if_neg hcomma, if_neg hcomma]
            exact hjoin stack

/-- Moved runs spell arguments that are alike. -/
theorem argumentOfRun_moved {run run' : List Token} (h : MovedIn source source' run run') :
    Related SameFault Argument.Alike (argumentOfRun source run) (argumentOfRun source' run') := by
  match run, h with
  | [], h =>
    obtain rfl := List.length_eq_zero_iff.1 h.length_eq
    exact .ok ⟨rfl, .other rfl⟩
  | [first], h =>
    obtain ⟨first', rest', rfl, -, -, hrest⟩ := h.exists_cons
    obtain rfl := List.length_eq_zero_iff.1 hrest.length_eq
    exact .ok ⟨rfl, h.alike_ofRun⟩
  | first :: second :: rest, h =>
    obtain ⟨first', others, rfl, hkind, htext, hothers⟩ := h.exists_cons
    obtain ⟨second', rest', rfl, hkind', -, hrest⟩ := hothers.exists_cons
    simp only [argumentOfRun, hkind, hkind', htext]
    by_cases hlabel : first.kind = .identifier ∧ second.kind = .punctuation ':'
    · rw [if_pos hlabel, if_pos hlabel]
      cases rest with
      | nil =>
        obtain rfl := List.length_eq_zero_iff.1 hrest.length_eq
        exact .error rfl
      | cons third rest =>
        obtain ⟨third', rest', rfl, -, -, -⟩ := hrest.exists_cons
        exact .ok ⟨rfl, hrest.alike_ofRun⟩
    · rw [if_neg hlabel, if_neg hlabel]
      exact .ok ⟨rfl, h.alike_ofRun⟩

/-! ### Invocations -/

theorem ofTokens_moved {tokens tokens' : List Token}
    (h : MovedIn source source' tokens tokens') :
    Related SameFault Invocation.Alike (ofTokens source tokens) (ofTokens source' tokens') := by
  match tokens, h with
  | [], h =>
    obtain rfl := List.length_eq_zero_iff.1 h.length_eq
    exact .error rfl
  | [_], h =>
    obtain ⟨first', rest', rfl, -, -, hrest⟩ := h.exists_cons
    obtain rfl := List.length_eq_zero_iff.1 hrest.length_eq
    exact .error rfl
  | [_, _], h =>
    obtain ⟨first', others, rfl, -, -, hothers⟩ := h.exists_cons
    obtain ⟨second', rest', rfl, -, -, hrest⟩ := hothers.exists_cons
    obtain rfl := List.length_eq_zero_iff.1 hrest.length_eq
    exact .error rfl
  | hash :: name :: opener :: rest, h =>
    obtain ⟨hash', _, rfl, hhash, -, hbehind⟩ := h.exists_cons
    obtain ⟨name', _, rfl, hname, htext, hbehind⟩ := hbehind.exists_cons
    obtain ⟨opener', rest', rfl, hopener, -, hrest⟩ := hbehind.exists_cons
    have htouch := h.touch_iff
    rw [ofTokens, ofTokens, hhash, hname, hopener]
    by_cases hshape : hash.kind ≠ .punctuation '#' ∨ name.kind ≠ .identifier
    · rw [if_pos hshape, if_pos hshape]
      exact .error rfl
    rw [if_neg hshape, if_neg hshape]
    by_cases hapart : name.start ≠ hash.stop
    · rw [if_pos hapart, if_pos (mt htouch.1 hapart)]
      exact .error rfl
    rw [if_neg hapart, if_neg (not_not.2 (htouch.2 (not_not.1 hapart)))]
    by_cases hopen : opener.kind ≠ .punctuation '('
    · rw [if_pos hopen, if_pos hopen]
      exact .error rfl
    rw [if_neg hopen, if_neg hopen]
    refine (splitRuns_moved .nil rfl hrest).bind ?_
    rintro ⟨runs, trailing⟩ ⟨runs', trailing'⟩ ⟨hruns, hlength⟩
    cases trailing with
    | cons token trailing =>
      obtain ⟨token', trailing', rfl⟩ := List.exists_cons_of_length_eq_add_one hlength
      exact .error rfl
    | nil =>
      obtain rfl := List.length_eq_zero_iff.1 hlength
      refine (Related.mapM hruns fun _ _ => argumentOfRun_moved).bind fun args args' hargs => ?_
      exact .ok ⟨htext.symm, hargs⟩

/-- Texts that hold the same tokens between other blanks are parsed alike. -/
theorem parse_alike {tokens : List Token} (htokens : Token.readAll source = .ok tokens)
    (hrelaid : Token.Relaid tokens source source') :
    Related SameFault Invocation.Alike (parse source) (parse source') := by
  obtain ⟨_, _, tokens', htokens', hmoved⟩ := Token.readAllFrom_relaid htokens hrelaid 0
  have hmovedIn : MovedIn source source' tokens tokens' :=
    ⟨⟨_, _, hmoved⟩, ⟨0, source, Token.readAll_layout htokens, by simp⟩,
      0, source', Token.readAll_layout htokens', by simp⟩
  have hread : Token.readAll source' = .ok tokens' := htokens'
  rw [parse, parse, htokens, hread]
  exact ofTokens_moved hmovedIn

end Invocation

end ColorLiteral
