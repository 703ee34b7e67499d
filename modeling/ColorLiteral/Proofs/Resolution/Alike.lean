import ColorLiteral.Proofs.Invocation.Alike
import ColorLiteral.Proofs.Resolution.Spelling

/-!
# Resolving under another layout

What an invocation resolves to does not depend on the blanks between its tokens
(`parse_and_resolve_alike`). The color is the same, or the diagnostic is the same but for its place,
and the place is that of the same argument.

The readers of arguments look at shapes, texts and labels only, and they pass a span on without
looking at it. So the places are left open in the proof: `ColorError.Alike` takes any relation of
spans that holds for the name and for the expressions, and gives it back for the place of an error.
-/

namespace ColorLiteral

open Outcome (Related)

/-! ### Readings of an expression -/

namespace Expr.Alike

variable {e e' : Expr}

theorem integer?_eq (h : e.Alike e') : Literal.integer? e = Literal.integer? e' := by
  cases h with
  | integer | float | string | other => rfl
  | @prefixed _ operator _ _ _ _ _ hoperand =>
    by_cases hminus : operator = ['-']
    · subst hminus
      cases hoperand <;> rfl
    · cases hoperand <;> simp [Literal.integer?, hminus]

theorem number?_eq (h : e.Alike e') : Literal.number? e = Literal.number? e' := by
  cases h with
  | integer | float | string | other => rfl
  | @prefixed _ operator _ _ _ _ _ hoperand =>
    by_cases hminus : operator = ['-']
    · subst hminus
      cases hoperand <;> rfl
    · cases hoperand <;> simp [Literal.number?, hminus]

end Expr.Alike

/-- Two errors have the same fault and the same hint, and their places are related. -/
structure ColorError.Alike (place : Span → Span → Prop) (e e' : ColorError) : Prop where
  fault : e.fault = e'.fault
  suggestion : e.suggestion = e'.suggestion
  anchor : Option.Rel place e.anchor e'.anchor

section places

variable {place : Span → Span → Prop} {e e' : Expr}

theorem ColorError.Alike.located {s s' : Span} (fault : ColorFault) (h : place s s') :
    ColorError.Alike place (.located s fault) (.located s' fault) :=
  ⟨rfl, rfl, .some h⟩

namespace Literal

theorem channelByte_alike (v : Variant) (halike : e.Alike e') (hplace : place e.span e'.span) :
    Related (ColorError.Alike place) Eq (channelByte v e) (channelByte v e') := by
  rw [channelByte, channelByte, halike.integer?_eq]
  cases integer? e' with
  | none => exact .error (.located _ hplace)
  | some value =>
    by_cases hrange : 0 ≤ value ∧ value ≤ 255
    · simp only [if_pos hrange]
      exact .ok rfl
    · simp only [if_neg hrange]
      exact .error (.located _ hplace)

theorem alphaValue_alike (v : Variant) (halike : e.Alike e') (hplace : place e.span e'.span) :
    Related (ColorError.Alike place) Eq (alphaValue v e) (alphaValue v e') := by
  have hnumber : Related (ColorError.Alike place) Eq (signedNumber v e) (signedNumber v e') := by
    rw [signedNumber, signedNumber, halike.number?_eq]
    cases number? e' with
    | none => exact .error (.located _ hplace)
    | some value => exact .ok rfl
  refine hnumber.bind fun value _ heq => ?_
  subst heq
  by_cases hrange : 0 ≤ value ∧ value ≤ 1
  · simp only [if_pos hrange]
    exact .ok rfl
  · simp only [if_neg hrange]
    exact .error (.located _ hplace)

theorem plainString_alike (halike : e.Alike e') (hplace : place e.span e'.span) :
    Related (ColorError.Alike place) Eq (plainString e) (plainString e') := by
  cases halike with
  | integer | float | prefixed | other => exact .error (.located _ hplace)
  | @string _ _ _ segments =>
    match segments with
    | [] => exact .error (.located _ hplace)
    | [piece] =>
      rw [plainString, plainString]
      by_cases hpiece : piece.isInterpolation = true
      · rw [if_pos hpiece, if_pos hpiece]
        exact .error (.located _ hplace)
      · rw [if_neg hpiece, if_neg hpiece]
        exact .ok rfl
    | _ :: _ :: _ => exact .error (.located _ hplace)

end Literal

/-! ### Argument lists -/

namespace Argument

variable {v : Variant} {exprs exprs' : List Expr} {arguments arguments' : List Argument}
  {nameSpan nameSpan' : Span}

theorem alphaOf_alike (v : Variant)
    (h : List.Forall₂ (fun e e' => e.Alike e' ∧ place e.span e'.span) exprs exprs') :
    Related (ColorError.Alike place) Eq (alphaOf v exprs) (alphaOf v exprs') := by
  cases h with
  | nil => exact .ok rfl
  | cons hfirst _ =>
    rw [alphaOf, alphaOf]
    by_cases halpha : v.hasAlpha = true
    · rw [if_pos halpha, if_pos halpha]
      exact Literal.alphaValue_alike v hfirst.1 hfirst.2
    · rw [if_neg halpha, if_neg halpha]
      exact .ok rfl

/-- Expressions that are alike, as many as a variant takes, are read alike. -/
theorem colorOf_alike (hlength : exprs.length = v.arity)
    (h : List.Forall₂ (fun e e' => e.Alike e' ∧ place e.span e'.span) exprs exprs') :
    Related (ColorError.Alike place) Eq (colorOf v exprs) (colorOf v exprs') := by
  by_cases hv : v = .hex
  · subst hv
    obtain ⟨e, rfl⟩ := List.length_eq_one_iff.1 hlength
    obtain ⟨e', _, ⟨halike, hplace⟩, -, rfl⟩ := List.forall₂_cons_left_iff.1 h
    rw [colorOf, colorOf]
    refine (Literal.plainString_alike halike hplace).bind fun t _ heq => ?_
    subst heq
    cases Hex.decode t with
    | ok color => exact .ok rfl
    | error fault => exact .error (.located fault hplace)
  · obtain ⟨first, second, third, rest, rfl, -⟩ := exists_channels hlength hv
    obtain ⟨first', _, hfirst, hothers, rfl⟩ := List.forall₂_cons_left_iff.1 h
    obtain ⟨second', _, hsecond, hothers', rfl⟩ := List.forall₂_cons_left_iff.1 hothers
    obtain ⟨third', rest', hthird, hrest, rfl⟩ := List.forall₂_cons_left_iff.1 hothers'
    rw [colorOf.eq_2 v first second third rest hv, colorOf.eq_2 v first' second' third' rest' hv]
    refine (Literal.channelByte_alike v hfirst.1 hfirst.2).bind fun a _ ha => ?_
    refine (Literal.channelByte_alike v hsecond.1 hsecond.2).bind fun b _ hb => ?_
    refine (Literal.channelByte_alike v hthird.1 hthird.2).bind fun c _ hc => ?_
    refine (alphaOf_alike v hrest).bind fun alpha _ halpha => ?_
    subst ha hb hc halpha
    exact .ok rfl

theorem getLast_alike {first first' : Argument} {rest rest' : List Argument}
    (h : List.Forall₂ (fun a a' => place a.expr.span a'.expr.span) (first :: rest)
      (first' :: rest')) :
    place ((first :: rest).getLast (by simp)).expr.span
      ((first' :: rest').getLast (by simp)).expr.span := by
  induction rest generalizing first first' rest' with
  | nil =>
    obtain ⟨_, _, hfirst, hnil, heq⟩ := List.forall₂_cons_left_iff.1 h
    obtain ⟨rfl, rfl⟩ := List.cons.inj heq
    cases hnil
    exact hfirst
  | cons second rest ih =>
    obtain ⟨_, _, -, hrest, heq⟩ := List.forall₂_cons_left_iff.1 h
    obtain ⟨rfl, rfl⟩ := List.cons.inj heq
    obtain ⟨second', rest', -, -, rfl⟩ := List.forall₂_cons_left_iff.1 hrest
    rw [List.getLast_cons_cons, List.getLast_cons_cons]
    exact ih hrest

theorem countAnchor_alike (v : Variant) {first first' : Argument} {rest rest' : List Argument}
    (h : List.Forall₂ (fun a a' => place a.expr.span a'.expr.span) (first :: rest)
      (first' :: rest')) :
    place (countAnchor v first rest) (countAnchor v first' rest') := by
  have hlast := getLast_alike h
  obtain ⟨_, _, -, hrest, heq⟩ := List.forall₂_cons_left_iff.1 h
  obtain ⟨rfl, rfl⟩ := List.cons.inj heq
  cases v with
  | hex =>
    cases hrest with
    | nil => exact hlast
    | cons hsecond _ => exact hsecond
  | rgb | rgba | hsl | hsla | hsb | hsba => exact hlast

/-- Arguments that are alike select the same variant, and there are as many as it takes. -/
theorem variantOf_alike (hname : place nameSpan nameSpan')
    (h : List.Forall₂ (fun a a' => a.Alike a' ∧ place a.expr.span a'.expr.span) arguments
      arguments') :
    Related (ColorError.Alike place) (fun v v' => v = v' ∧ arguments.length = v.arity)
      (variantOf arguments nameSpan) (variantOf arguments' nameSpan') := by
  have hlength := h.length_eq
  have hplaces := h.imp fun _ _ => And.right
  cases h with
  | nil => exact .error (.located _ hname)
  | @cons first first' rest rest' hfirst _ =>
    have hlabel := hfirst.1.label
    simp only [variantOf, ← hlength]
    cases hfound : first.label? with
    | none =>
      obtain hnone : first'.label? = none := by simpa [hfound] using hlabel.symm
      simp only [hnone]
      exact .error (.located _ hfirst.2)
    | some label =>
      obtain ⟨label', hlabel', htext⟩ : ∃ label', first'.label? = some label' ∧
          label'.text = label.text := by simpa [hfound] using hlabel.symm
      simp only [hlabel', htext]
      cases Variant.ofLabel? label.text with
      | none => exact .error ⟨rfl, rfl, .some hfirst.2⟩
      | some v =>
        by_cases hcount : (first :: rest).length = v.arity
        · simp only [if_pos hcount]
          exact .ok ⟨rfl, hcount⟩
        · simp only [if_neg hcount]
          exact .error (.located _ (countAnchor_alike v hplaces))

theorem colorOfList_alike (hname : place nameSpan nameSpan')
    (h : List.Forall₂ (fun a a' => a.Alike a' ∧ place a.expr.span a'.expr.span) arguments
      arguments') :
    Related (ColorError.Alike place) Eq (colorOfList arguments nameSpan)
      (colorOfList arguments' nameSpan') := by
  refine (variantOf_alike hname h).bind ?_
  rintro v _ ⟨rfl, hlength⟩
  refine colorOf_alike (by rwa [List.length_map]) ?_
  rw [List.forall₂_map_left_iff, List.forall₂_map_right_iff]
  exact h.imp fun _ _ halike => ⟨halike.1.expr, halike.2⟩

end Argument

end places

/-! ### Invocations -/

/-- Two places are those of the names of two invocations, or those of the expressions of the
arguments with one number. -/
inductive Invocation.SamePlace (i i' : Invocation) : Span → Span → Prop
  | name : SamePlace i i' i.nameSpan i'.nameSpan
  | argument {k : Nat} {a a' : Argument} (ha : i.arguments[k]? = some a)
      (ha' : i'.arguments[k]? = some a') : SamePlace i i' a.expr.span a'.expr.span

/-- Two invocations resolve to the same color, or to diagnostics with the same kind, message, hint
and severity at the same argument. -/
inductive Resolution.Alike (i i' : Invocation) : Resolution → Resolution → Prop
  | color {c : Rgba} : Alike i i' (.color c) (.color c)
  | failure {d d' : Diagnostic} (hkind : d.kind = d'.kind) (hmessage : d.message = d'.message)
      (hsuggestion : d.suggestion = d'.suggestion) (hseverity : d.severity = d'.severity)
      (hanchor : i.SamePlace i' d.anchor d'.anchor) : Alike i i' (.failure d) (.failure d')

namespace Invocation

variable {i i' : Invocation} {source source' : Text}

/-- Invocations that are alike resolve alike. -/
theorem resolve_alike (h : i.Alike i') : Resolution.Alike i i' i.resolve i'.resolve := by
  have hname : i.SamePlace i' i.nameSpan i'.nameSpan := .name
  have harguments : List.Forall₂
      (fun a a' => a.Alike a' ∧ i.SamePlace i' a.expr.span a'.expr.span) i.arguments
        i'.arguments := by
    rw [List.forall₂_iff_get]
    refine ⟨h.arguments.length_eq, fun k hk hk' => ⟨h.arguments.get hk hk', ?_⟩⟩
    exact .argument (List.getElem?_eq_getElem hk) (List.getElem?_eq_getElem hk')
  have hcolor := Argument.colorOfList_alike hname harguments
  rw [resolve, resolve, Argument.resolve, Argument.resolve]
  generalize Argument.colorOfList i.arguments i.nameSpan = x at hcolor
  generalize Argument.colorOfList i'.arguments i'.nameSpan = x' at hcolor
  cases hcolor with
  | ok heq => rw [heq]; exact .color
  | @error e e' halike =>
    have hanchor : i.SamePlace i' (e.anchor.getD i.nameSpan) (e'.anchor.getD i'.nameSpan) := by
      have hplace := halike.anchor
      generalize e.anchor = anchor at hplace ⊢
      generalize e'.anchor = anchor' at hplace ⊢
      cases hplace with
      | none => exact .name
      | some hplace => exact hplace
    exact .failure (congrArg ColorFault.kind halike.fault) (congrArg ColorFault.message halike.fault)
      halike.suggestion rfl hanchor

/-- The layout of a text makes no difference. When the blanks around its tokens are replaced by
others, with at least one left wherever there were some between two tokens, the text is still
refused for the same fault, or it still gives the same name, labels and expressions, and resolves to
the same color or to the same diagnostic at the same argument. -/
theorem parse_and_resolve_alike {tokens : List Token}
    (htokens : Token.readAll source = .ok tokens)
    (hrelaid : Token.Relaid tokens source source') :
    (∃ e e', parse source = .error e ∧ parse source' = .error e' ∧ e.fault = e'.fault) ∨
      ∃ i i', parse source = .ok i ∧ parse source' = .ok i' ∧ i.Alike i' ∧
        Resolution.Alike i i' i.resolve i'.resolve := by
  have hparse := parse_alike htokens hrelaid
  generalize parse source = x at hparse
  generalize parse source' = x' at hparse
  cases hparse with
  | error hfault => exact .inl ⟨_, _, rfl, rfl, hfault⟩
  | ok halike => exact .inr ⟨_, _, rfl, rfl, halike, resolve_alike halike⟩

/-- A call that is broken behind its label, and indented. -/
theorem parse_and_resolve_alike_broken :
    ∃ i i', parse "#Color(hex: \"fff\")".toList = .ok i ∧
      parse " #Color(hex:\n\"fff\")".toList = .ok i' ∧ i.Alike i' ∧
        Resolution.Alike i i' i.resolve i'.resolve := by
  have htokens : Token.readAll "#Color(hex: \"fff\")".toList = .ok
      [⟨.punctuation '#', "#".toList, 0⟩, ⟨.identifier, "Color".toList, 1⟩,
        ⟨.punctuation '(', "(".toList, 6⟩, ⟨.identifier, "hex".toList, 7⟩,
        ⟨.punctuation ':', ":".toList, 10⟩,
        ⟨.string [.plain "fff".toList], "\"fff\"".toList, 12⟩,
        ⟨.punctuation ')', ")".toList, 17⟩] := by
    decide +kernel
  have hspace : Text.IsBlanks [' '] := List.forall_mem_singleton.2 (by decide)
  have hbreak : Text.IsBlanks ['\n'] := List.forall_mem_singleton.2 (by decide)
  have hend : Text.IsBlanks [] := List.forall_mem_nil _
  have hliteral : Token.RelaidBehind
      (⟨.string [.plain "fff".toList], "\"fff\"".toList, 12⟩ :: _) _ _ :=
    .cons hspace hbreak (by simp) (.touching ⟨.punctuation ')', ")".toList, 17⟩ (.nil hend hend))
  have hbehind := hliteral
    |>.touching ⟨.punctuation ':', ":".toList, 10⟩ |>.touching ⟨.identifier, "hex".toList, 7⟩
    |>.touching ⟨.punctuation '(', "(".toList, 6⟩ |>.touching ⟨.identifier, "Color".toList, 1⟩
    |>.touching ⟨.punctuation '#', "#".toList, 0⟩
  have hrelaid : Token.Relaid _ "#Color(hex: \"fff\")".toList " #Color(hex:\n\"fff\")".toList :=
    ⟨[], [' '], _, _, by decide +kernel, by decide +kernel, hend, hspace, hbehind⟩
  rcases parse_and_resolve_alike htokens hrelaid with ⟨e, e', herror, -⟩ | halike
  · have hparses : (parse "#Color(hex: \"fff\")".toList).toOption.isSome = true := by
      decide +kernel
    rw [herror] at hparses
    cases hparses
  · exact halike

end Invocation

end ColorLiteral
