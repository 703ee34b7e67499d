import ColorLiteral.Proofs.Invocation.Parsing
import ColorLiteral.Proofs.Text.Cut

/-!
# The spans of an invocation

An invocation that is parsed from a source loses nothing of it (`parse_lossless`). The name, the
labels and the expressions are pieces of the source, each at its span and without blanks at its
ends. They lie one behind the other, and outside of them there is only punctuation and blanks: `#`,
the parentheses, a colon for each label, and a comma between any two arguments.

The proof follows the tokens: a run of tokens covers one stretch of the source
(`Layout.exists_stretch`), so each expression is one piece (`cut_ofRun`), each argument is cut into
its label and its expression (`cut_argument`), and the arguments follow each other
(`cut_arguments`).
-/

namespace ColorLiteral

namespace Text

/-- The characters of a text that are not blank. -/
def visible (t : Text) : Text := t.filter (!isBlank ·)

@[simp] theorem visible_append (s t : Text) : visible (s ++ t) = visible s ++ visible t :=
  List.filter_append ..

theorem visible_eq_nil {t : Text} (h : t.IsBlanks) : visible t = [] :=
  List.filter_eq_nil_iff.2 fun c hc => by simp [h c hc]

theorem visible_eq_self {t : Text} (h : BlankFree t) : visible t = t :=
  List.filter_eq_self.2 fun c hc => by simp [h c hc]

/-- A text is cut into pieces, and of what lies outside of them only some characters are not
blank. -/
def CutsInto (offset : Nat) (t : Text) (pieces : List Piece) (shown : Text) : Prop :=
  ∃ out, Cut offset t pieces out ∧ visible out = shown

theorem CutsInto.append {offset : Nat} {s r shown shown' : Text} {pieces pieces' : List Piece}
    (hs : CutsInto offset s pieces shown) (hr : CutsInto (offset + s.length) r pieces' shown') :
    CutsInto offset (s ++ r) (pieces ++ pieces') (shown ++ shown') := by
  obtain ⟨out, hcut, rfl⟩ := hs
  obtain ⟨out', hcut', rfl⟩ := hr
  exact ⟨out ++ out', hcut.append hcut', visible_append out out'⟩

end Text

open Text (Piece Cut CutsInto visible)

/-! ### Pieces -/

/-- The operator and the operand of a prefixed expression make up its text, and the operand stands
behind the operator. -/
def Expr.IsPrefixExact : Expr → Prop
  | .prefixed text span operator operand =>
    operator ++ operand.text = text ∧ operand.span = ⟨span.start + operator.length, span.stop⟩
  | _ => True

/-- The label of an argument, if it has one, and its expression. -/
def Argument.pieces (a : Argument) : List Piece :=
  (a.label?.toList.map fun label => (label.span, label.text)) ++ [(a.expr.span, a.expr.text)]

/-- The name, and the pieces of all arguments. -/
def Invocation.pieces (i : Invocation) : List Piece :=
  (i.nameSpan, i.name) :: i.arguments.flatMap Argument.pieces

/-- The spans of the name, the labels and the expressions. -/
def Invocation.spans (i : Invocation) : List Span := i.pieces.map Prod.fst

/-- The colon of an argument with a label. -/
def Argument.colon (a : Argument) : Text := if a.label?.isSome then [':'] else []

/-- The number of labels. -/
def Invocation.labelCount (i : Invocation) : Nat := i.arguments.countP (·.label?.isSome)

/-! ### Expressions -/

namespace Expr

@[simp] theorem text_ofToken (token : Token) : (ofToken token).text = token.text := by
  unfold ofToken
  split <;> rfl

@[simp] theorem span_ofToken (token : Token) : (ofToken token).span = token.span := by
  unfold ofToken
  split <;> rfl

theorem span_ofRun (source : Text) (first : Token) (rest : List Token) :
    (ofRun source first rest).span =
      .ofOffsets first.start ((first :: rest).getLast (by simp)).stop := by
  fun_cases ofRun source first rest with
  | case1 => simp [Token.span]
  | case2 | case3 | case4 => rfl

theorem text_ofRun {source : Text} {first : Token} (rest : List Token)
    (hfirst : source.slice first.start first.stop = first.text) :
    (ofRun source first rest).text =
      source.slice first.start ((first :: rest).getLast (by simp)).stop := by
  fun_cases ofRun source first rest with
  | case1 => simp [hfirst]
  | case2 | case3 | case4 => rfl

/-- An operator and the token that it touches give an expression made of the two texts. -/
theorem ofRun_of_touch {source : Text} {first operand : Token} (hkind : first.kind = .operator)
    (htouch : first.stop = operand.start)
    (hexact : (ofRun source first [operand]).IsPrefixExact) :
    ofRun source first [operand] =
      .prefixed (first.text ++ operand.text) (.ofOffsets first.start operand.stop) first.text
        (ofToken operand) := by
  have hrun : ofRun source first [operand] =
      .prefixed (source.slice first.start operand.stop) (.ofOffsets first.start operand.stop)
        first.text (ofToken operand) := by
    simp only [ofRun, hkind, htouch, and_self, if_true]
    rfl
  rw [hrun] at hexact ⊢
  rw [← hexact.1, text_ofToken]

end Expr

namespace Token

/-! ### Tokens in a source -/

/-- Tokens lie in a text that stands at an offset of a source. -/
structure Placed (source : Text) (offset : Nat) (t : Text) (tokens : List Token) : Prop where
  layout : Layout offset t tokens
  place : t <+: source.drop offset

namespace Placed

variable {source t : Text} {offset : Nat} {tokens : List Token} {token : Token}

theorem isBlanks (h : Placed source offset t []) : t.IsBlanks := by
  cases h.layout with
  | nil hblanks => exact hblanks

/-- The first token, and what lies behind it. -/
theorem exists_cons (h : Placed source offset t (token :: tokens)) :
    ∃ blanks after, t = blanks ++ (token.text ++ after) ∧ blanks.IsBlanks ∧
      token.start = offset + blanks.length ∧ token.IsWellFormed ∧
      token.text ++ after <+: source.drop token.start ∧
      Placed source token.stop after tokens := by
  obtain ⟨hlayout, hplace⟩ := h
  cases hlayout with
  | @cons _ blanks after _ _ hblanks hstart hform hafter =>
    have hfirst := Text.isPrefix_drop_of_append hplace
    rw [← hstart] at hfirst
    exact ⟨blanks, after, rfl, hblanks, hstart, hform, hfirst,
      hafter, Text.isPrefix_drop_of_append hfirst⟩

/-- The tokens behind the first ones. -/
theorem append {first rest : List Token} (h : Placed source offset t (first ++ rest)) :
    ∃ s r, t = s ++ r ∧ Placed source offset s first ∧
      Placed source (offset + s.length) r rest := by
  obtain ⟨hlayout, hplace⟩ := h
  obtain ⟨s, r, rfl, hs, hr⟩ := hlayout.append
  exact ⟨s, r, rfl, ⟨hs, (List.prefix_append _ _).trans hplace⟩,
    hr, Text.isPrefix_drop_of_append hplace⟩

/-- The first token is a piece in front of those behind it. -/
theorem cut_token (h : Placed source offset t (token :: tokens)) :
    ∃ after, Placed source token.stop after tokens ∧
      ∀ pieces shown, CutsInto token.stop after pieces shown →
        CutsInto offset t ((token.span, token.text) :: pieces) shown := by
  obtain ⟨blanks, after, rfl, hblanks, hstart, hform, -, hafter⟩ := h.exists_cons
  refine ⟨after, hafter, ?_⟩
  rintro pieces shown ⟨out, hcut, rfl⟩
  rw [stop, hstart] at hcut
  refine ⟨blanks ++ out, ?_, by simp [Text.visible_eq_nil hblanks]⟩
  rw [span, stop, hstart]
  exact .piece hform.solid hcut

/-- The first token is punctuation in front of the pieces. -/
theorem cut_punctuation {c : Char} (h : Placed source offset t (token :: tokens))
    (hkind : token.kind = .punctuation c) :
    ∃ after, Placed source token.stop after tokens ∧
      ∀ pieces shown, CutsInto token.stop after pieces shown →
        CutsInto offset t pieces (c :: shown) := by
  obtain ⟨blanks, after, rfl, hblanks, hstart, hform, -, hafter⟩ := h.exists_cons
  have htext := hform.punctuation c hkind
  have hc : Text.isBlank c = false := hform.solid.head_not_blank c (by simp [htext])
  refine ⟨after, hafter, ?_⟩
  rintro pieces shown ⟨out, hcut, rfl⟩
  have hoffset : token.stop = offset + (blanks ++ token.text).length := by
    rw [stop, hstart, List.length_append]; omega
  rw [hoffset] at hcut
  have hout : visible ((blanks ++ token.text) ++ out) = c :: visible out := by
    rw [htext, Text.visible_append, Text.visible_append, Text.visible_eq_nil hblanks,
      Text.visible_eq_self (Text.blankFree_nil.cons hc)]
    rfl
  refine ⟨(blanks ++ token.text) ++ out, ?_, hout⟩
  rw [← List.append_assoc]
  exact hcut.gap _

theorem slice_first (h : Placed source offset t (token :: tokens)) :
    source.slice token.start token.stop = token.text := by
  obtain ⟨-, after, -, -, -, -, hfirst, -⟩ := h.exists_cons
  exact Text.slice_eq_of_isPrefix ((List.prefix_append _ _).trans hfirst)

/-- A run of tokens is cut into one expression. -/
theorem cut_ofRun (h : Placed source offset t (token :: tokens)) :
    CutsInto offset t
      [((Expr.ofRun source token tokens).span, (Expr.ofRun source token tokens).text)] [] := by
  obtain ⟨blanks, stretch, behind, rfl, hblanks, hbehind, hsolid, hstart, hlast⟩ :=
    h.layout.exists_stretch
  have hpiece := Text.isPrefix_drop_of_append h.place
  rw [← hstart] at hpiece
  have htext : (Expr.ofRun source token tokens).text = stretch := by
    rw [Expr.text_ofRun tokens h.slice_first, hlast]
    exact Text.slice_eq_of_isPrefix ((List.prefix_append _ _).trans hpiece)
  refine ⟨blanks ++ behind, ?_, by simp [Text.visible_eq_nil, hblanks, hbehind]⟩
  rw [Expr.span_ofRun, htext, hlast, hstart]
  exact .piece hsolid .rest

theorem isPrefixExact_ofRun (h : Placed source offset t (token :: tokens)) :
    (Expr.ofRun source token tokens).IsPrefixExact := by
  fun_cases Expr.ofRun source token tokens with
  | case1 =>
    unfold Expr.ofToken
    split <;> trivial
  | case3 | case4 => trivial
  | case2 operand htouch last span text =>
    obtain ⟨-, after, -, -, -, -, hfirst, hafter⟩ := h.exists_cons
    obtain ⟨blanks, behind, rfl, -, hstart, -⟩ := hafter.exists_cons
    -- the operand touches the operator, so that there are no blanks between them
    obtain rfl : blanks = [] := List.length_eq_zero_iff.1 (by omega)
    rw [List.nil_append, ← List.append_assoc] at hfirst
    have hstop : operand.stop = token.start + (token.text ++ operand.text).length := by
      rw [stop, ← htouch.2, stop, List.length_append]
      omega
    have hslice : source.slice token.start operand.stop = token.text ++ operand.text := by
      rw [hstop]
      exact Text.slice_eq_of_isPrefix ((List.prefix_append _ _).trans hfirst)
    refine ⟨by rw [Expr.text_ofToken]; exact hslice.symm, ?_⟩
    rw [Expr.span_ofToken, Token.span, ← htouch.2]
    rfl

end Placed

end Token

namespace Invocation

open Token (Placed)

variable {source t : Text} {offset : Nat}

/-! ### Arguments -/

/-- A run is cut into the label and the expression of its argument. -/
theorem cut_argument {run : List Token} {a : Argument} (hspells : Spells source run a)
    (h : Placed source offset t run) :
    CutsInto offset t a.pieces a.colon ∧ a.expr.IsPrefixExact := by
  cases hspells with
  | unlabelled hlabel => exact ⟨h.cut_ofRun, h.isPrefixExact_ofRun⟩
  | labelled hname hcolon =>
    obtain ⟨after, hafter, hlabel⟩ := h.cut_token
    obtain ⟨after, hafter, hpunctuation⟩ := hafter.cut_punctuation hcolon
    exact ⟨hlabel _ _ (hpunctuation _ _ hafter.cut_ofRun), hafter.isPrefixExact_ofRun⟩

/-- The runs between the commas are cut into the pieces of their arguments. -/
theorem cut_arguments {runs : List (List Token)} {body : List Token} {args : List Argument}
    (hbody : Separated runs body) (hspells : List.Forall₂ (Spells source) runs args)
    (h : Placed source offset t body) :
    CutsInto offset t (args.flatMap Argument.pieces)
        (Text.joinWith [','] (args.map Argument.colon)) ∧
      ∀ a ∈ args, a.expr.IsPrefixExact := by
  induction hbody generalizing offset t args with
  | none =>
    cases hspells
    exact ⟨⟨t, .rest, Text.visible_eq_nil h.isBlanks⟩, by simp⟩
  | one =>
    obtain ⟨a, rest, ha, hnil, rfl⟩ := List.forall₂_cons_left_iff.1 hspells
    cases hnil
    obtain ⟨hcut, hexact⟩ := cut_argument ha h
    refine ⟨?_, by simpa using hexact⟩
    simpa [Text.joinWith] using hcut
  | @more run next rest runs comma hcomma hrest ih =>
    obtain ⟨a, others, ha, hothers, rfl⟩ := List.forall₂_cons_left_iff.1 hspells
    obtain ⟨s, r, rfl, hs, hr⟩ := h.append
    obtain ⟨after, hafter, hseparator⟩ := hr.cut_punctuation hcomma
    obtain ⟨hcut, hexact⟩ := cut_argument ha hs
    obtain ⟨hcuts, hexacts⟩ := ih hothers hafter
    refine ⟨?_, List.forall_mem_cons.2 ⟨hexact, hexacts⟩⟩
    obtain ⟨b, others, -, -, rfl⟩ := List.forall₂_cons_left_iff.1 hothers
    exact hcut.append (hseparator _ _ hcuts)

/-! ### The whole invocation -/

/-- What lies outside of the name, the labels and the expressions. -/
def frame (i : Invocation) : Text :=
  '#' :: '(' :: (Text.joinWith [','] (i.arguments.map Argument.colon) ++ [')'])

/-- A parsed source is cut into the pieces of the invocation. -/
theorem cut_parse {i : Invocation} (h : parse source = .ok i) :
    CutsInto 0 source i.pieces i.frame ∧ ∀ a ∈ i.arguments, a.expr.IsPrefixExact := by
  obtain ⟨tokens, htokens, hof⟩ := parse_eq_ok_iff.1 h
  obtain ⟨name, runs, hform, hbuilt⟩ := ofTokens_iff.1 hof
  have hplaced : Placed source 0 source tokens :=
    ⟨Token.readAll_layout htokens, by simp⟩
  cases hform with
  | mk hhash hname htouch hopener hbody hruns hcloser =>
    obtain ⟨afterHash, hafterHash, hcutHash⟩ := hplaced.cut_punctuation hhash
    obtain ⟨afterName, hafterName, hcutName⟩ := hafterHash.cut_token
    obtain ⟨afterOpener, hafterOpener, hcutOpener⟩ := hafterName.cut_punctuation hopener
    obtain ⟨inner, last, rfl, hinner, hlast⟩ := hafterOpener.append
    obtain ⟨afterCloser, hafterCloser, hcutCloser⟩ := hlast.cut_punctuation hcloser
    obtain ⟨hcutBody, hexact⟩ := cut_arguments hbody hbuilt.spells hinner
    have hcutEnd : CutsInto _ last [] [')'] :=
      hcutCloser _ _ ⟨_, .rest, Text.visible_eq_nil hafterCloser.isBlanks⟩
    have hcut := hcutHash _ _ (hcutName _ _ (hcutOpener _ _ (hcutBody.append hcutEnd)))
    rw [← hbuilt.name_eq, ← hbuilt.nameSpan_eq, List.append_nil] at hcut
    exact ⟨hcut, hexact⟩

theorem colon_eq_replicate (a : Argument) :
    a.colon = List.replicate ([a].countP (·.label?.isSome)) ':' := by
  cases hlabel : a.label? <;> simp [Argument.colon, hlabel]

/-- Between any two arguments there is one comma. -/
theorem joinWith_colon_perm (args : List Argument) :
    (Text.joinWith [','] (args.map Argument.colon)).Perm
      (List.replicate (args.countP (·.label?.isSome)) ':' ++
        List.replicate (args.length - 1) ',') := by
  induction args with
  | nil => simp [Text.joinWith]
  | cons a rest ih =>
    rw [Text.joinWith] at ih ⊢
    cases rest with
    | nil => simp [colon_eq_replicate]
    | cons b rest =>
      have hcount : (a :: b :: rest).countP (·.label?.isSome) =
          [a].countP (·.label?.isSome) + (b :: rest).countP (·.label?.isSome) := by
        simp only [List.countP_cons, List.countP_nil]
        omega
      rw [List.map_cons, List.map_cons, List.intercalate_cons_cons, ← List.map_cons, hcount,
        List.replicate_add, ← colon_eq_replicate, List.append_assoc, List.append_assoc]
      exact .append_left _ ((ih.cons ',').trans List.perm_middle.symm)

/-- Nothing of a parsed source is lost. The name, the labels and the expressions are the parts of
the source at their spans, one behind the other. An expression has no blanks at its ends, and a
prefix operator is followed by its operand. Outside of the spans there are blanks and the
punctuation of the invocation. -/
theorem parse_lossless {i : Invocation} (h : parse source = .ok i) :
    i.nameSpan.textIn source = i.name ∧
    (∀ a ∈ i.arguments,
      (∀ label ∈ a.label?, label.span.textIn source = label.text) ∧
      a.expr.span.textIn source = a.expr.text ∧ a.expr.text.IsSolid ∧ a.expr.IsPrefixExact) ∧
    (∀ s ∈ i.spans, 0 ≤ s.start ∧ s.start < s.stop ∧ s.stop ≤ source.length) ∧
    i.spans.Pairwise (fun s r => s.stop ≤ r.start) ∧
    (visible (source.outside i.spans)).Perm
      ('#' :: '(' :: ')' ::
        (List.replicate i.labelCount ':' ++ List.replicate (i.arguments.length - 1) ',')) := by
  obtain ⟨⟨out, hcut, hout⟩, hexact⟩ := cut_parse h
  have htext {p : Piece} (hp : p ∈ i.pieces) : p.1.textIn source = p.2 :=
    hcut.textIn_eq (by simp) hp
  have hargument {a : Argument} (ha : a ∈ i.arguments) {p : Piece} (hp : p ∈ a.pieces) :
      p ∈ i.pieces := List.mem_cons_of_mem _ (List.mem_flatMap.2 ⟨a, ha, hp⟩)
  refine ⟨htext (p := (i.nameSpan, i.name)) (List.mem_cons_self ..), ?_, ?_, ?_, ?_⟩
  · intro a ha
    have hexpr := hargument ha (p := (a.expr.span, a.expr.text)) (by simp [Argument.pieces])
    refine ⟨?_, htext hexpr, (hcut.bounds_of_mem hexpr).2.2.2, hexact a ha⟩
    intro label hlabel
    apply htext (p := (label.span, label.text))
    apply hargument ha
    simp [Argument.pieces, Option.mem_def.1 hlabel]
  · intro s hs
    obtain ⟨p, hp, rfl⟩ := List.mem_map.1 hs
    obtain ⟨hstart, hlt, hstop, -⟩ := hcut.bounds_of_mem hp
    exact ⟨by omega, hlt, by omega⟩
  · exact List.pairwise_map.2 hcut.pairwise
  · have houtside : source.outside i.spans = out := hcut.outsideFrom_eq
    rw [houtside, hout, frame]
    refine .cons _ (.cons _ ?_)
    exact (List.perm_append_singleton _ _).trans (.cons _ (joinWith_colon_perm _))

/-- The spans of a call with a label and a sign. -/
theorem parse_lossless_signed :
    ∃ i, parse "#Color(rgb: 1, -2)".toList = .ok i ∧ i.spans = [⟨1, 6⟩, ⟨7, 10⟩, ⟨12, 13⟩, ⟨15, 17⟩] ∧
      (visible (Text.outside "#Color(rgb: 1, -2)".toList i.spans)).Perm "#():,".toList := by
  have hparse : parse "#Color(rgb: 1, -2)".toList = .ok
      ⟨"Color".toList, ⟨1, 6⟩,
        [⟨some ⟨"rgb".toList, ⟨7, 10⟩⟩, .integer "1".toList ⟨12, 13⟩⟩,
          ⟨none, .prefixed "-2".toList ⟨15, 17⟩ "-".toList (.integer "2".toList ⟨16, 17⟩)⟩]⟩ := by
    decide +kernel
  obtain ⟨-, -, -, -, houtside⟩ := parse_lossless hparse
  exact ⟨_, hparse, rfl, houtside⟩

end Invocation

end ColorLiteral
