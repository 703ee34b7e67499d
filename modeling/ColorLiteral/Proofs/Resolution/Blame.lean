import ColorLiteral.Proofs.Resolution.Spelling

/-!
# What a diagnostic blames

Which diagnostic an argument list gets that spells no color, said without running the checks. The
name is blamed when there are no arguments, the first argument when its label selects nothing, the
second or the last one when their number is wrong, and otherwise the leftmost argument that is not
acceptable in its position (`resolve_failure_iff_blames`). What stands to the right of the blamed
argument makes no difference.

The checks follow each other, so it is enough to see that each of them reports its own flaw when the
earlier ones pass (`resolve_of_blames`), and that a list without a flaw spells a color
(`spells_or_blames`).
-/

namespace ColorLiteral

/-- The diagnostic of a fault at a place. -/
def Diagnostic.ofFault (anchor : Span) (fault : ColorFault) (hint : Option Text) : Diagnostic :=
  ⟨fault.kind, fault.message, anchor, hint, .error⟩

namespace Argument

variable {v : Variant} {arguments : List Argument} {nameSpan : Span}

/-! ### Acceptable expressions -/

/-- An expression is acceptable in a position, counted from zero: as the text of a hexadecimal
color, as one of three bytes, or as the alpha behind them. -/
def Accepts (v : Variant) (position : Nat) (e : Expr) : Prop :=
  match v with
  | .hex => ∃ t color, e.IsPlainString t ∧ Hex.decode t = .ok color
  | _ => if position < 3 then ∃ n, e.IsByte n else ∃ x, e.IsAlpha x

/-- Every expression is acceptable in its position. -/
def AcceptsAll (v : Variant) (exprs : List Expr) : Prop :=
  ∀ p ∈ exprs.zipIdx, Accepts v p.2 p.1

/-- What is wrong with an expression in a position. -/
inductive Flaw : Variant → Nat → Expr → ColorFault → Prop
  | notString {position : Nat} {e : Expr} (he : ∀ t s pieces, e ≠ .string t s pieces) :
      Flaw .hex position e .hexNonStringLiteral
  | notPlain {position : Nat} {text : Text} {span : Span} {pieces : List Segment}
      (hpieces : ∀ piece, pieces = [piece] → piece.isInterpolation = true) :
      Flaw .hex position (.string text span pieces) .hexInterpolatedString
  | noColor {position : Nat} {e : Expr} {t : Text} {fault : ColorFault} (he : e.IsPlainString t)
      (hdecode : Hex.decode t = .error fault) : Flaw .hex position e fault
  | notInteger {v : Variant} {position : Nat} {e : Expr} (hv : v ≠ .hex) (hposition : position < 3)
      (he : ∀ z, e.SpellsInteger z → Literal.integerLimit < z.natAbs) :
      Flaw v position e (.invalidNumericLiteral v.signature)
  | notByte {v : Variant} {position : Nat} {e : Expr} {z : Int} (hv : v ≠ .hex)
      (hposition : position < 3) (he : e.SpellsInteger z) (hlimit : z.natAbs ≤ Literal.integerLimit)
      (hrange : z < 0 ∨ 255 < z) :
      Flaw v position e (.valueOutOfRange (Literal.channelRange v) (.ofInt z) .channel)
  | notNumber {v : Variant} {position : Nat} {e : Expr} (hv : v ≠ .hex) (hposition : 3 ≤ position)
      (he : ∀ x, ¬ e.SpellsNumber x) : Flaw v position e (.invalidNumericLiteral v.signature)
  | notAlpha {v : Variant} {position : Nat} {e : Expr} {x : Binary64} (hv : v ≠ .hex)
      (hposition : 3 ≤ position) (he : e.SpellsNumber x) (hrange : ¬ (0 ≤ x ∧ x ≤ 1)) :
      Flaw v position e (.valueOutOfRange "Alpha must be between 0 and 1" x .alpha)

/-! ### Blame -/

/-- The label of an argument names a variant, in any letter case. -/
def Names (a : Argument) (v : Variant) : Prop :=
  ∃ label, a.label? = some label ∧ Text.lower label.text = v.name

/-- Where a wrong number of arguments shows: at the second argument of a hexadecimal color, and at
the last one otherwise. -/
inductive CountPlace : Variant → List Argument → Span → Prop
  | second {first second : Argument} {rest : List Argument} :
      CountPlace .hex (first :: second :: rest) second.expr.span
  | last {v : Variant} {before : List Argument} {last : Argument} (hv : v ≠ .hex) :
      CountPlace v (before ++ [last]) last.expr.span

/-- The diagnostic of an argument list, by the argument that is to blame. -/
inductive Blames (nameSpan : Span) : List Argument → Diagnostic → Prop
  | nothing : Blames nameSpan [] (.ofFault nameSpan .missingArgument none)
  | unlabeled {first : Argument} {rest : List Argument} (hlabel : first.label? = none) :
      Blames nameSpan (first :: rest) (.ofFault first.expr.span .missingLabel none)
  | unknown {first : Argument} {rest : List Argument} {label : Label}
      (hlabel : first.label? = some label) (hname : ∀ v, ¬ first.Names v) :
      Blames nameSpan (first :: rest)
        (.ofFault first.expr.span (.unknownLabel label.text) (labelHint label.text))
  | count {first : Argument} {rest : List Argument} {v : Variant} {place : Span}
      (hname : first.Names v) (hcount : (first :: rest).length ≠ v.arity)
      (hplace : CountPlace v (first :: rest) place) :
      Blames nameSpan (first :: rest) (.ofFault place
        (.unexpectedArgumentCount v.signature v.arity (first :: rest).length) none)
  | argument {v : Variant} {before after : List Argument} {a : Argument} {fault : ColorFault}
      (hselects : Selects (before ++ a :: after) v)
      (hbefore : AcceptsAll v (before.map Argument.expr))
      (hflaw : Flaw v before.length a.expr fault) :
      Blames nameSpan (before ++ a :: after) (.ofFault a.expr.span fault none)

/-! ### One expression -/

theorem colorOf_hex_of_flaw {e : Expr} {position : Nat} {fault : ColorFault}
    (h : Flaw .hex position e fault) : colorOf .hex [e] = .error (.located e.span fault) := by
  cases h with
  | notString he =>
    cases e with
    | string text span pieces => exact absurd rfl (he text span pieces)
    | integer | float | prefixed | other => rfl
  | @notPlain _ text span pieces hpieces =>
    match pieces with
    | [piece] => simp [colorOf, Literal.plainString, hpieces piece rfl, bind, Except.bind]; rfl
    | [] => rfl
    | _ :: _ :: _ => rfl
  | noColor he hdecode =>
    rw [colorOf, Literal.plainString_eq_ok_iff.2 he]
    simp only [bind, Except.bind, hdecode]
    rfl
  | notInteger hv | notByte hv | notNumber hv | notAlpha hv => exact absurd rfl hv

theorem channelByte_of_flaw {e : Expr} {position : Nat} {fault : ColorFault} (hv : v ≠ .hex)
    (hposition : position < 3) (h : Flaw v position e fault) :
    Literal.channelByte v e = .error (.located e.span fault) := by
  cases h with
  | notString | notPlain | noColor => exact absurd rfl hv
  | notInteger _ _ he => exact Literal.channelByte_of_no_integer he
  | notByte _ _ he hlimit hrange => exact Literal.channelByte_of_no_byte he hlimit hrange
  | notNumber _ hthree | notAlpha _ hthree => exact absurd hposition (Nat.not_lt.2 hthree)

theorem alphaValue_of_flaw {e : Expr} {position : Nat} {fault : ColorFault} (hv : v ≠ .hex)
    (hposition : 3 ≤ position) (h : Flaw v position e fault) :
    Literal.alphaValue v e = .error (.located e.span fault) := by
  cases h with
  | notString | notPlain | noColor => exact absurd rfl hv
  | notInteger _ hthree | notByte _ hthree => exact absurd hposition (Nat.not_le.2 hthree)
  | notNumber _ _ he =>
    have hnone : Literal.number? e = none := by
      by_contra hsome
      obtain ⟨x, hx⟩ := Option.ne_none_iff_exists'.1 hsome
      exact he x (Literal.number?_eq_some_iff.1 hx)
    rw [Literal.alphaValue, Literal.signedNumber, hnone]
    rfl
  | @notAlpha _ _ _ x _ _ he hrange =>
    have hsigned : Literal.signedNumber v e = .ok x := Literal.signedNumber_eq_ok_iff.2 he
    exact Outcome.bind_eq_error_iff.2 (.inr ⟨x, hsigned, if_neg hrange⟩)

theorem accepts_or_flaw_hex (position : Nat) (e : Expr) :
    Accepts .hex position e ∨ ∃ fault, Flaw .hex position e fault := by
  by_cases hplain : ∃ t, e.IsPlainString t
  · obtain ⟨t, ht⟩ := hplain
    cases hdecode : Hex.decode t with
    | ok color => exact .inl ⟨t, color, ht, hdecode⟩
    | error fault => exact .inr ⟨fault, .noColor ht hdecode⟩
  · right
    cases e with
    | string text span pieces =>
      refine ⟨_, .notPlain fun piece hpieces => ?_⟩
      by_contra hno
      exact hplain ⟨piece.text, text, span, piece, by rw [hpieces], by simpa using hno, rfl⟩
    | integer | float | prefixed | other => exact ⟨_, .notString (by simp)⟩

theorem isByte_or_flaw {position : Nat} (hv : v ≠ .hex) (hposition : position < 3) (e : Expr) :
    (∃ n, e.IsByte n) ∨ ∃ fault, Flaw v position e fault := by
  by_cases hinteger : ∃ z, e.SpellsInteger z ∧ z.natAbs ≤ Literal.integerLimit
  · obtain ⟨z, hz, hlimit⟩ := hinteger
    by_cases hrange : z < 0 ∨ 255 < z
    · exact .inr ⟨_, .notByte hv hposition hz hlimit hrange⟩
    · obtain ⟨n, rfl⟩ := Int.eq_ofNat_of_zero_le (by omega : 0 ≤ z)
      exact .inl ⟨n, hz, by omega⟩
  · refine .inr ⟨_, .notInteger hv hposition fun z hz => ?_⟩
    by_contra hlimit
    exact hinteger ⟨z, hz, Nat.not_lt.1 hlimit⟩

theorem isAlpha_or_flaw {position : Nat} (hv : v ≠ .hex) (hposition : 3 ≤ position) (e : Expr) :
    (∃ x, e.IsAlpha x) ∨ ∃ fault, Flaw v position e fault := by
  by_cases hnumber : ∃ x, e.SpellsNumber x
  · obtain ⟨x, hx⟩ := hnumber
    by_cases hrange : 0 ≤ x ∧ x ≤ 1
    · exact .inl ⟨x, hx, hrange⟩
    · exact .inr ⟨_, .notAlpha hv hposition hx hrange⟩
  · exact .inr ⟨_, .notNumber hv hposition fun x hx => hnumber ⟨x, hx⟩⟩

theorem accepts_iff {position : Nat} {e : Expr} (hv : v ≠ .hex) :
    Accepts v position e ↔ if position < 3 then ∃ n, e.IsByte n else ∃ x, e.IsAlpha x := by
  cases v with
  | hex => exact absurd rfl hv
  | rgb | rgba | hsl | hsla | hsb | hsba => exact Iff.rfl

/-- An expression that is not acceptable has a flaw. -/
theorem accepts_or_flaw (v : Variant) (position : Nat) (e : Expr) :
    Accepts v position e ∨ ∃ fault, Flaw v position e fault := by
  by_cases hv : v = .hex
  · subst hv
    exact accepts_or_flaw_hex position e
  · rw [accepts_iff hv]
    split
    · next hposition => exact isByte_or_flaw hv hposition e
    · next hposition => exact isAlpha_or_flaw hv (Nat.not_lt.1 hposition) e

/-! ### All expressions -/

theorem acceptsAll_concat {exprs : List Expr} {e : Expr} :
    AcceptsAll v (exprs ++ [e]) ↔ AcceptsAll v exprs ∧ Accepts v exprs.length e := by
  rw [AcceptsAll, List.zipIdx_append, List.forall_mem_append]
  simp [AcceptsAll]

/-- Either every expression is acceptable, or there is a leftmost one with a flaw. -/
theorem acceptsAll_or_flaw (v : Variant) (exprs : List Expr) :
    AcceptsAll v exprs ∨ ∃ before e after fault, exprs = before ++ e :: after ∧
      AcceptsAll v before ∧ Flaw v before.length e fault := by
  induction exprs using List.reverseRecOn with
  | nil => exact .inl (by simp [AcceptsAll])
  | append_singleton exprs last ih =>
    rcases ih with hall | ⟨before, e, after, fault, rfl, hbefore, hflaw⟩
    · rcases accepts_or_flaw v exprs.length last with hlast | ⟨fault, hflaw⟩
      · exact .inl (acceptsAll_concat.2 ⟨hall, hlast⟩)
      · exact .inr ⟨exprs, last, [], fault, rfl, hall, hflaw⟩
    · exact .inr ⟨before, e, after ++ [last], fault, by simp, hbefore, hflaw⟩

/-- Expressions that are all acceptable, as many as the variant takes, spell a color. -/
theorem exists_spellsColor {exprs : List Expr} (hlength : exprs.length = v.arity)
    (hall : AcceptsAll v exprs) : ∃ color, SpellsColor v exprs color := by
  by_cases hv : v = .hex
  · subst hv
    obtain ⟨e, rfl⟩ := List.length_eq_one_iff.1 hlength
    obtain ⟨t, color, ht, hdecode⟩ : Accepts .hex 0 e := by simpa [AcceptsAll] using hall
    exact ⟨color, .hex ht hdecode⟩
  · obtain ⟨first, second, third, rest, rfl, hrest⟩ := exists_channels hlength hv
    have haccepts : (∃ a, first.IsByte a) ∧ (∃ b, second.IsByte b) ∧ (∃ c, third.IsByte c) ∧
        ∀ e ∈ rest.head?, ∃ x, e.IsAlpha x := by
      refine ⟨?_, ?_, ?_, fun e he => ?_⟩
      · simpa [accepts_iff hv] using hall (first, 0) (by simp)
      · simpa [accepts_iff hv] using hall (second, 1) (by simp)
      · simpa [accepts_iff hv] using hall (third, 2) (by simp)
      · obtain ⟨others, rfl⟩ := List.head?_eq_some_iff.1 he
        simpa [accepts_iff hv] using hall (e, 3) (by simp)
    obtain ⟨⟨a, ha⟩, ⟨b, hb⟩, ⟨c, hc⟩, hfourth⟩ := haccepts
    obtain ⟨alpha, halpha⟩ : ∃ alpha, SpellsAlpha v rest alpha := by
      cases halpha : v.hasAlpha with
      | false =>
        obtain rfl : rest = [] := List.length_eq_zero_iff.1 (by simpa [halpha] using hrest)
        exact ⟨1, .absent halpha⟩
      | true =>
        obtain ⟨e, rfl⟩ := List.length_eq_one_iff.1 (by simpa [halpha] using hrest)
        obtain ⟨x, hx⟩ := hfourth e rfl
        exact ⟨x, .given halpha hx⟩
    exact ⟨_, .channels ha hb hc ((spellsChannels_iff hv).2 rfl) halpha⟩

/-- The leftmost expression with a flaw decides the error. -/
theorem colorOf_of_flaw {before after : List Expr} {e : Expr} {fault : ColorFault}
    (hlength : (before ++ e :: after).length = v.arity) (hbefore : AcceptsAll v before)
    (hflaw : Flaw v before.length e fault) :
    colorOf v (before ++ e :: after) = .error (.located e.span fault) := by
  by_cases hv : v = .hex
  · subst hv
    obtain ⟨rfl, rfl⟩ : before = [] ∧ after = [] := by
      simp only [List.length_append, List.length_cons, Variant.arity] at hlength
      exact ⟨List.length_eq_zero_iff.1 (by omega), List.length_eq_zero_iff.1 (by omega)⟩
    exact colorOf_hex_of_flaw hflaw
  · obtain ⟨first, second, third, rest, heq, hrest⟩ := exists_channels hlength hv
    have hbyte (x : Expr) (position : Nat) (hposition : position < 3)
        (hmem : (x, position) ∈ before.zipIdx) : ∃ n, Literal.channelByte v x = .ok n := by
      obtain ⟨n, hn⟩ : ∃ n, x.IsByte n := by
        simpa [accepts_iff hv, hposition] using hbefore _ hmem
      exact ⟨n, Literal.channelByte_eq_ok_iff.2 hn⟩
    rw [heq, colorOf.eq_2 v first second third rest hv, Outcome.bind_eq_error_iff]
    rcases before with _ | ⟨x, _ | ⟨y, _ | ⟨z, others⟩⟩⟩
    · obtain ⟨rfl, -⟩ := List.cons.inj heq
      exact .inl (channelByte_of_flaw hv (by decide) hflaw)
    · obtain ⟨rfl, rfl, -⟩ : x = first ∧ e = second ∧ after = third :: rest := by simpa using heq
      obtain ⟨a, ha⟩ := hbyte x 0 (by decide) (by simp)
      refine .inr ⟨a, ha, Outcome.bind_eq_error_iff.2 (.inl ?_)⟩
      exact channelByte_of_flaw hv (by simp) hflaw
    · obtain ⟨rfl, rfl, rfl, -⟩ : x = first ∧ y = second ∧ e = third ∧ after = rest := by
        simpa using heq
      obtain ⟨a, ha⟩ := hbyte x 0 (by decide) (by simp)
      obtain ⟨b, hb⟩ := hbyte y 1 (by decide) (by simp)
      refine .inr ⟨a, ha, Outcome.bind_eq_error_iff.2 (.inr ⟨b, hb, ?_⟩)⟩
      exact Outcome.bind_eq_error_iff.2 (.inl (channelByte_of_flaw hv (by simp) hflaw))
    · obtain ⟨rfl, rfl, rfl, rfl⟩ :
          x = first ∧ y = second ∧ z = third ∧ others ++ e :: after = rest := by
        simpa using heq
      obtain ⟨a, ha⟩ := hbyte x 0 (by decide) (by simp)
      obtain ⟨b, hb⟩ := hbyte y 1 (by decide) (by simp)
      obtain ⟨c, hc⟩ := hbyte z 2 (by decide) (by simp)
      refine .inr ⟨a, ha, Outcome.bind_eq_error_iff.2 (.inr ⟨b, hb, ?_⟩)⟩
      refine Outcome.bind_eq_error_iff.2 (.inr ⟨c, hc, Outcome.bind_eq_error_iff.2 (.inl ?_)⟩)
      -- A fourth expression is there for a variant with an alpha only, and it is the last one.
      have halpha : v.hasAlpha = true := by
        by_contra hno
        simp [hno] at hrest
      obtain rfl : others = [] := by
        simp only [halpha, if_true, List.length_append, List.length_cons] at hrest
        exact List.length_eq_zero_iff.1 (by omega)
      rw [List.nil_append, alphaOf, if_pos halpha]
      exact alphaValue_of_flaw hv (Nat.le_refl 3) hflaw

/-! ### The whole list -/

theorem resolve_of_error_at {anchor : Span} {fault : ColorFault} {hint : Option Text}
    (h : colorOfList arguments nameSpan = .error ⟨fault, some anchor, hint⟩) :
    resolve arguments nameSpan = .failure (.ofFault anchor fault hint) := by
  rw [resolve, h]
  rfl

theorem resolve_of_variantOf {anchor : Span} {fault : ColorFault} {hint : Option Text}
    (h : variantOf arguments nameSpan = .error ⟨fault, some anchor, hint⟩) :
    resolve arguments nameSpan = .failure (.ofFault anchor fault hint) :=
  resolve_of_error_at (Outcome.bind_eq_error_iff.2 (.inl h))

theorem ofLabel?_of_forall_not_names {first : Argument} {label : Label}
    (hlabel : first.label? = some label) (hname : ∀ v, ¬ first.Names v) :
    Variant.ofLabel? label.text = none := by
  by_contra h
  obtain ⟨v, hv⟩ := Option.ne_none_iff_exists'.1 h
  exact hname v ⟨label, hlabel, Variant.ofLabel?_eq_some_iff.1 hv⟩

theorem countAnchor_eq {first : Argument} {rest : List Argument} {place : Span}
    (h : CountPlace v (first :: rest) place) : countAnchor v first rest = place := by
  generalize harguments : first :: rest = arguments at h
  cases h with
  | second =>
    obtain ⟨rfl, rfl⟩ := List.cons.inj harguments
    rfl
  | @last _ before last hv =>
    have hlast : (first :: rest).getLast (by simp) = last := by
      simp only [harguments, List.getLast_concat]
    unfold countAnchor
    split
    · exact absurd rfl hv
    · rw [hlast]

/-- The argument that is to blame decides the diagnostic. -/
theorem resolve_of_blames {d : Diagnostic} (h : Blames nameSpan arguments d) :
    resolve arguments nameSpan = .failure d := by
  cases h with
  | nothing => rfl
  | unlabeled hlabel =>
    apply resolve_of_variantOf
    simp only [variantOf, hlabel]
    rfl
  | unknown hlabel hname =>
    apply resolve_of_variantOf
    simp only [variantOf, hlabel, ofLabel?_of_forall_not_names hlabel hname]
  | @count first rest v place hname hcount hplace =>
    obtain ⟨label, hlabel, hlower⟩ := hname
    apply resolve_of_variantOf
    simp only [variantOf, hlabel, Variant.ofLabel?_eq_some_iff.2 hlower, if_neg hcount,
      countAnchor_eq hplace]
    rfl
  | @argument v before after a fault hselects hbefore hflaw =>
    apply resolve_of_error_at
    refine Outcome.bind_eq_error_iff.2 (.inr ⟨v, variantOf_eq_ok_iff.2 hselects, ?_⟩)
    rw [List.map_append, List.map_cons]
    refine colorOf_of_flaw ?_ hbefore (by rwa [List.length_map])
    simpa using hselects.length_eq

theorem exists_countPlace {first : Argument} {rest : List Argument}
    (hcount : (first :: rest).length ≠ v.arity) : ∃ place, CountPlace v (first :: rest) place := by
  by_cases hv : v = .hex
  · subst hv
    cases rest with
    | nil => exact absurd rfl hcount
    | cons second rest => exact ⟨_, .second⟩
  · have hlast : (first :: rest).dropLast ++ [(first :: rest).getLast (by simp)] = first :: rest :=
      List.dropLast_concat_getLast _
    rw [← hlast]
    exact ⟨_, .last hv⟩

/-- A list that spells no color has an argument that is to blame. -/
theorem spells_or_blames (arguments : List Argument) (nameSpan : Span) :
    (∃ color, Spells arguments color) ∨ ∃ d, Blames nameSpan arguments d := by
  rcases arguments with _ | ⟨first, rest⟩
  · exact .inr ⟨_, .nothing⟩
  cases hlabel : first.label? with
  | none => exact .inr ⟨_, .unlabeled hlabel⟩
  | some label =>
    by_cases hname : ∃ v, first.Names v
    · obtain ⟨v, hname⟩ := hname
      by_cases hcount : (first :: rest).length = v.arity
      · obtain ⟨label, hlabel, hlower⟩ := hname
        have hselects : Selects (first :: rest) v :=
          ⟨⟨first, rest, label, rfl, hlabel, hlower⟩, hcount⟩
        rcases acceptsAll_or_flaw v ((first :: rest).map Argument.expr) with
          hall | ⟨before, e, after, fault, heq, hbefore, hflaw⟩
        · obtain ⟨color, hcolor⟩ := exists_spellsColor (by rwa [List.length_map]) hall
          exact .inl ⟨color, v, hselects, hcolor⟩
        · obtain ⟨before, others, harguments, rfl, hothers⟩ := List.map_eq_append_iff.1 heq
          obtain ⟨a, after, rfl, rfl, rfl⟩ := List.map_eq_cons_iff.1 hothers
          rw [List.length_map] at hflaw
          rw [harguments] at hselects ⊢
          exact .inr ⟨_, .argument hselects hbefore hflaw⟩
      · obtain ⟨place, hplace⟩ := exists_countPlace hcount
        exact .inr ⟨_, .count hname hcount hplace⟩
    · exact .inr ⟨_, .unknown hlabel fun v hv => hname ⟨v, hv⟩⟩

/-- The first label and the number of arguments select the variant. -/
theorem Selects.replace {before after others : List Argument} {a : Argument}
    (h : Selects (before ++ a :: after) v) (hlength : others.length = after.length) :
    Selects (before ++ a :: others) v := by
  obtain ⟨⟨first, rest, label, harguments, hlabel, hlower⟩, hcount⟩ := h
  refine ⟨?_, by simpa [hlength] using hcount⟩
  cases before with
  | nil =>
    obtain ⟨rfl, -⟩ := List.cons.inj harguments
    exact ⟨_, _, label, rfl, hlabel, hlower⟩
  | cons head before =>
    obtain ⟨rfl, -⟩ := List.cons.inj harguments
    exact ⟨_, _, label, rfl, hlabel, hlower⟩

theorem resolve_eq_failure_iff {d : Diagnostic} :
    resolve arguments nameSpan = .failure d ↔ Blames nameSpan arguments d := by
  refine ⟨fun h => ?_, resolve_of_blames⟩
  rcases spells_or_blames arguments nameSpan with ⟨color, hcolor⟩ | ⟨d', hblames⟩
  · cases (resolve_eq_color_iff.2 hcolor).symm.trans h
  · obtain rfl : d' = d := Resolution.failure.inj ((resolve_of_blames hblames).symm.trans h)
    exact hblames

/-- An argument list that gives no color gets the diagnostic of the argument that is to blame. What
stands to the right of that argument makes no difference: nothing does behind a first argument that
selects no variant, a wrong number of arguments only counts them, and otherwise the arguments behind
the leftmost one that is not acceptable may be any. -/
theorem resolve_failure_iff_blames (arguments : List Argument) (nameSpan : Span) :
    (∀ d, resolve arguments nameSpan = .failure d ↔ Blames nameSpan arguments d) ∧
    (∀ first rest others, arguments = first :: rest → (∀ v, ¬ first.Names v) →
      resolve (first :: others) nameSpan = resolve arguments nameSpan) ∧
    (∀ v first rest first' rest' place, arguments = first :: rest → first.Names v →
      first'.Names v → arguments.length ≠ v.arity → (first' :: rest').length = arguments.length →
      CountPlace v arguments place → CountPlace v (first' :: rest') place →
      resolve (first' :: rest') nameSpan = resolve arguments nameSpan) ∧
    ∀ v before a after others, arguments = before ++ a :: after → Selects arguments v →
      AcceptsAll v (before.map Argument.expr) → ¬ Accepts v before.length a.expr →
      others.length = after.length →
      resolve (before ++ a :: others) nameSpan = resolve arguments nameSpan := by
  refine ⟨fun d => resolve_eq_failure_iff, ?_, ?_, ?_⟩
  · rintro first rest others rfl hname
    cases hlabel : first.label? with
    | none => rw [resolve_of_blames (.unlabeled hlabel), resolve_of_blames (.unlabeled hlabel)]
    | some label =>
      rw [resolve_of_blames (.unknown hlabel hname), resolve_of_blames (.unknown hlabel hname)]
  · rintro v first rest first' rest' place rfl hname hname' hcount hlength hplace hplace'
    rw [resolve_of_blames (.count hname hcount hplace),
      resolve_of_blames (.count hname' (hlength ▸ hcount) hplace'), hlength]
  · rintro v before a after others rfl hselects hbefore ha hlength
    rcases accepts_or_flaw v before.length a.expr with haccepts | ⟨fault, hflaw⟩
    · exact absurd haccepts ha
    · rw [resolve_of_blames (.argument hselects hbefore hflaw),
        resolve_of_blames (.argument (hselects.replace hlength) hbefore hflaw)]

end Argument

end ColorLiteral
