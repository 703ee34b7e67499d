import ColorLiteral.Proofs.Literal.Reading
import ColorLiteral.Resolution

/-!
# What resolving accepts

Which argument lists spell a color, and which color, said without the order of the checks: the first
label selects a variant, the number of arguments is that of the variant, and the expressions spell
bytes, an alpha or a hexadecimal color. Resolving gives a color exactly for these lists, and for
every other list one diagnostic at a place that its error names (`resolve_iff_spells`).

The parts are the choice of the variant (`variantOf_eq_ok_iff`) and the reading of the expressions
(`colorOf_eq_ok_iff`). The number of arguments is checked in the first part, so that in the second
one no expression is missing and no error is without a place (`colorOf_error`).
-/

namespace ColorLiteral

namespace Variant

theorem ofLabel?_eq_some_iff {label : Text} {v : Variant} :
    ofLabel? label = some v ↔ Text.lower label = v.name := by
  constructor
  · intro h
    have hname := List.find?_some h
    exact (beq_iff_eq.1 hname).symm
  · intro h
    rw [ofLabel?, h]
    cases v <;> decide

end Variant

namespace Argument

variable {v : Variant} {arguments : List Argument} {nameSpan : Span}

/-! ### Colors that arguments spell -/

/-- The first argument has the label of a variant, in any letter case, and there are as many
arguments as the variant takes. -/
structure Selects (arguments : List Argument) (v : Variant) : Prop where
  label : ∃ first rest label, arguments = first :: rest ∧ first.label? = some label ∧
    Text.lower label.text = v.name
  length_eq : arguments.length = v.arity

/-- Red, green and blue of three bytes: shares of 255, or what degrees and percentages convert
to. -/
inductive SpellsChannels (a b c : Nat) : Variant → Binary64 × Binary64 × Binary64 → Prop
  | rgb {v : Variant} (hv : v = .rgb ∨ v = .rgba) :
      SpellsChannels a b c v (.ofNat a / 255, .ofNat b / 255, .ofNat c / 255)
  | hsl {v : Variant} (hv : v = .hsl ∨ v = .hsla) :
      SpellsChannels a b c v (ColorSpace.rgbOfHsl (.ofNat a) (.ofNat b) (.ofNat c))
  | hsb {v : Variant} (hv : v = .hsb ∨ v = .hsba) :
      SpellsChannels a b c v (ColorSpace.rgbOfHsb (.ofNat a) (.ofNat b) (.ofNat c))

/-- The alpha of what follows the three bytes: one, or the number of a fourth expression. -/
inductive SpellsAlpha (v : Variant) : List Expr → Binary64 → Prop
  | absent (hv : v.hasAlpha = false) : SpellsAlpha v [] 1
  | given {e : Expr} {x : Binary64} (hv : v.hasAlpha = true) (he : e.IsAlpha x) :
      SpellsAlpha v [e] x

/-- The expressions spell a color in a variant. -/
inductive SpellsColor : Variant → List Expr → Rgba → Prop
  | hex {e : Expr} {t : Text} {color : Rgba} (he : e.IsPlainString t)
      (hdecode : Hex.decode t = .ok color) : SpellsColor .hex [e] color
  | channels {v : Variant} {first second third : Expr} {rest : List Expr} {a b c : Nat}
      {red green blue alpha : Binary64} (hfirst : first.IsByte a) (hsecond : second.IsByte b)
      (hthird : third.IsByte c) (hchannels : SpellsChannels a b c v (red, green, blue))
      (halpha : SpellsAlpha v rest alpha) :
      SpellsColor v (first :: second :: third :: rest) ⟨red, green, blue, alpha⟩

/-- The arguments spell a color. -/
def Spells (arguments : List Argument) (color : Rgba) : Prop :=
  ∃ v, Selects arguments v ∧ SpellsColor v (arguments.map Argument.expr) color

/-! ### The variant -/

/-- A variant is chosen exactly when the arguments select it. -/
theorem variantOf_eq_ok_iff : variantOf arguments nameSpan = .ok v ↔ Selects arguments v := by
  constructor
  · intro h
    unfold variantOf at h
    split at h
    · cases h
    next first rest =>
    split at h
    · cases h
    next label hlabel =>
    split at h
    · cases h
    next u hu =>
    split at h
    · next hlength =>
      cases h
      exact ⟨⟨first, rest, label, rfl, hlabel, Variant.ofLabel?_eq_some_iff.1 hu⟩, hlength⟩
    · cases h
  · rintro ⟨⟨first, rest, label, rfl, hlabel, hname⟩, hlength⟩
    simp only [variantOf, hlabel, Variant.ofLabel?_eq_some_iff.2 hname, if_pos hlength]

theorem variantOf_error {err : ColorError} (h : variantOf arguments nameSpan = .error err) :
    err.anchor.isSome = true := by
  unfold variantOf at h
  split at h
  · cases h; rfl
  split at h
  · cases h; rfl
  split at h
  · cases h; rfl
  split at h
  · cases h
  · cases h; rfl

/-! ### The color -/

/-- The expressions of a variant other than the hexadecimal one: three bytes, and one more
expression if there is an alpha. -/
theorem exists_channels {exprs : List Expr} (hlength : exprs.length = v.arity) (hv : v ≠ .hex) :
    ∃ first second third rest, exprs = first :: second :: third :: rest ∧
      rest.length = if v.hasAlpha then 1 else 0 := by
  have harity : v.arity = (if v.hasAlpha then 1 else 0) + 3 := by
    cases v <;> first | rfl | exact absurd rfl hv
  rw [harity] at hlength
  match exprs, hlength with
  | first :: second :: third :: rest, hlength =>
    exact ⟨first, second, third, rest, rfl, by simpa using hlength⟩

theorem alphaOf_eq_ok_iff {rest : List Expr} {x : Binary64}
    (hlength : rest.length = if v.hasAlpha then 1 else 0) :
    alphaOf v rest = .ok x ↔ SpellsAlpha v rest x := by
  cases hv : v.hasAlpha with
  | false =>
    obtain rfl : rest = [] := List.length_eq_zero_iff.1 (by simpa [hv] using hlength)
    constructor
    · intro h
      obtain rfl : 1 = x := Except.ok.inj h
      exact .absent hv
    · intro h
      cases h
      rfl
  | true =>
    obtain ⟨e, rfl⟩ := List.length_eq_one_iff.1 (by simpa [hv] using hlength)
    simp only [alphaOf, hv, if_true, Literal.alphaValue_eq_ok_iff]
    constructor
    · exact .given hv
    · intro h
      cases h with
      | given _ he => exact he

theorem alphaOf_error {rest : List Expr} {err : ColorError} (h : alphaOf v rest = .error err) :
    ∃ e ∈ rest, err.anchor = some e.span := by
  unfold alphaOf at h
  split at h
  · next e rest =>
    split at h
    · exact ⟨e, by simp, Literal.alphaValue_error h⟩
    · cases h
  · cases h

theorem spellsChannels_iff {a b c : Nat} {channels : Binary64 × Binary64 × Binary64}
    (hv : v ≠ .hex) : SpellsChannels a b c v channels ↔ channelsOf v a b c = channels := by
  constructor
  · intro h
    cases h with
    | rgb hv | hsl hv | hsb hv => rcases hv with rfl | rfl <;> rfl
  · rintro rfl
    cases v with
    | hex => exact absurd rfl hv
    | rgb | rgba => exact .rgb (by simp)
    | hsl | hsla => exact .hsl (by simp)
    | hsb | hsba => exact .hsb (by simp)

theorem colorOf_hex {e : Expr} {color : Rgba} :
    colorOf .hex [e] = .ok color ↔ SpellsColor .hex [e] color := by
  rw [colorOf, Outcome.bind_eq_ok_iff]
  constructor
  · rintro ⟨t, ht, h⟩
    unfold anchored at h
    split at h
    · next hdecode =>
      cases h
      exact .hex (Literal.plainString_eq_ok_iff.1 ht) hdecode
    · cases h
  · intro h
    cases h with
    | hex he hdecode =>
      exact ⟨_, Literal.plainString_eq_ok_iff.2 he, by rw [hdecode]; rfl⟩

theorem colorOf_channels {first second third : Expr} {rest : List Expr} {color : Rgba}
    (hv : v ≠ .hex) (hlength : rest.length = if v.hasAlpha then 1 else 0) :
    colorOf v (first :: second :: third :: rest) = .ok color ↔
      SpellsColor v (first :: second :: third :: rest) color := by
  rw [colorOf.eq_2 v first second third rest hv]
  simp only [Outcome.bind_eq_ok_iff, Literal.channelByte_eq_ok_iff, alphaOf_eq_ok_iff hlength]
  constructor
  · rintro ⟨a, ha, b, hb, c, hc, alpha, halpha, h⟩
    generalize hrgb : channelsOf v a b c = rgb at h
    obtain ⟨red, green, blue⟩ := rgb
    obtain rfl := Except.ok.inj h
    exact .channels ha hb hc ((spellsChannels_iff hv).2 hrgb) halpha
  · intro h
    cases h with
    | channels ha hb hc hchannels halpha =>
      refine ⟨_, ha, _, hb, _, hc, _, halpha, ?_⟩
      rw [(spellsChannels_iff hv).1 hchannels]

/-- A color is read exactly when the expressions spell it. -/
theorem colorOf_eq_ok_iff {exprs : List Expr} {color : Rgba} (hlength : exprs.length = v.arity) :
    colorOf v exprs = .ok color ↔ SpellsColor v exprs color := by
  by_cases hv : v = .hex
  · subst hv
    obtain ⟨e, rfl⟩ := List.length_eq_one_iff.1 hlength
    exact colorOf_hex
  · obtain ⟨first, second, third, rest, rfl, hrest⟩ := exists_channels hlength hv
    exact colorOf_channels hv hrest

/-- No expression is missing, so that an error always points at one. -/
theorem colorOf_error {exprs : List Expr} {err : ColorError} (hlength : exprs.length = v.arity)
    (h : colorOf v exprs = .error err) : ∃ e ∈ exprs, err.anchor = some e.span := by
  unfold colorOf at h
  split at h
  · next e rest =>
    refine ⟨e, by simp, ?_⟩
    rcases Outcome.bind_eq_error_iff.1 h with h | ⟨t, -, h⟩
    · exact Literal.plainString_error h
    · unfold anchored at h
      split at h <;> cases h
      rfl
  · next first second third rest _ =>
    rcases Outcome.bind_eq_error_iff.1 h with h | ⟨a, -, h⟩
    · exact ⟨first, by simp, Literal.channelByte_error h⟩
    rcases Outcome.bind_eq_error_iff.1 h with h | ⟨b, -, h⟩
    · exact ⟨second, by simp, Literal.channelByte_error h⟩
    rcases Outcome.bind_eq_error_iff.1 h with h | ⟨c, -, h⟩
    · exact ⟨third, by simp, Literal.channelByte_error h⟩
    rcases Outcome.bind_eq_error_iff.1 h with h | ⟨alpha, -, h⟩
    · obtain ⟨e, he, hplace⟩ := alphaOf_error h
      exact ⟨e, by simp [he], hplace⟩
    · cases h
  · next hchannels hhex =>
    exfalso
    by_cases hv : v = .hex
    · obtain ⟨e, rfl⟩ := List.length_eq_one_iff.1 (hv ▸ hlength)
      exact hhex e [] hv rfl
    · obtain ⟨first, second, third, rest, rfl, -⟩ := exists_channels hlength hv
      exact hchannels first second third rest rfl

/-! ### Resolving -/

theorem colorOfList_eq_ok_iff {color : Rgba} :
    colorOfList arguments nameSpan = .ok color ↔ Spells arguments color := by
  rw [colorOfList, Outcome.bind_eq_ok_iff, Spells]
  refine exists_congr fun v => ?_
  rw [variantOf_eq_ok_iff]
  refine and_congr_right fun hselects => ?_
  exact colorOf_eq_ok_iff (by rw [List.length_map, hselects.length_eq])

theorem colorOfList_error {err : ColorError} (h : colorOfList arguments nameSpan = .error err) :
    err.anchor.isSome = true := by
  rcases Outcome.bind_eq_error_iff.1 h with h | ⟨v, hv, h⟩
  · exact variantOf_error h
  · have hselects := variantOf_eq_ok_iff.1 hv
    obtain ⟨e, -, hplace⟩ := colorOf_error (by rw [List.length_map, hselects.length_eq]) h
    rw [hplace]
    rfl

/-- An error names its own place, so that the place of the name is never put in for it. -/
theorem resolve_of_error {err : ColorError} (h : colorOfList arguments nameSpan = .error err) :
    ∃ d, err.toDiagnostic? none = some d ∧ resolve arguments nameSpan = .failure d := by
  obtain ⟨anchor, hanchor⟩ := Option.isSome_iff_exists.1 (colorOfList_error h)
  refine ⟨⟨err.fault.kind, err.fault.message, anchor, err.suggestion, .error⟩, ?_, ?_⟩
  · rw [ColorError.toDiagnostic?, hanchor]
    rfl
  · simp only [resolve, h, hanchor, Option.getD_some]

theorem resolve_eq_color_iff {color : Rgba} :
    resolve arguments nameSpan = .color color ↔ Spells arguments color := by
  have hlist : colorOfList arguments nameSpan = .ok color ↔ Spells arguments color :=
    colorOfList_eq_ok_iff
  rw [← hlist, resolve]
  split
  · next h => rw [h, Resolution.color.injEq, Except.ok.injEq]
  · next h => simp [h]

theorem countAnchor_congr {first : Argument} {rest others : List Argument}
    (h : others.map Argument.expr = rest.map Argument.expr) :
    countAnchor v first others = countAnchor v first rest := by
  have hlast : ((first :: others).getLast (by simp)).expr =
      ((first :: rest).getLast (by simp)).expr := by
    rw [← List.getLast_map (f := Argument.expr) (h := by simp),
      ← List.getLast_map (f := Argument.expr) (h := by simp)]
    simp only [List.map_cons, h]
  cases others with
  | nil =>
    obtain rfl : rest = [] := by simpa using h.symm
    rfl
  | cons second others =>
    cases rest with
    | nil => cases h
    | cons third rest =>
      have hsecond : second.expr = third.expr := (List.cons.inj h).1
      cases v with
      | hex => rw [countAnchor, countAnchor, hsecond]
      | rgb | rgba | hsl | hsla | hsb | hsba => exact congrArg Expr.span hlast

/-- Labels behind the first argument count for nothing. -/
theorem resolve_congr {first : Argument} {rest others : List Argument}
    (h : others.map Argument.expr = rest.map Argument.expr) :
    resolve (first :: others) nameSpan = resolve (first :: rest) nameSpan := by
  have hlength : (first :: others).length = (first :: rest).length := by
    rw [← List.length_map (f := Argument.expr), List.map_cons, h, ← List.map_cons, List.length_map]
  have hexprs : (first :: others).map Argument.expr = (first :: rest).map Argument.expr := by
    rw [List.map_cons, h, List.map_cons]
  have hvariant : variantOf (first :: others) nameSpan = variantOf (first :: rest) nameSpan := by
    simp only [variantOf, hlength, countAnchor_congr h]
  rw [resolve, resolve, colorOfList, colorOfList, hvariant, hexprs]

/-- An argument list gives a color exactly when it spells that color. Every other list gives one
diagnostic, at a place that its error names, and the fallback color. The labels behind the first
argument make no difference. -/
theorem resolve_iff_spells (arguments : List Argument) (nameSpan : Span) :
    (∀ color, resolve arguments nameSpan = .color color ↔ Spells arguments color) ∧
    ((∃ color, resolve arguments nameSpan = .color color ∧
        (resolve arguments nameSpan).rgba = color ∧
        (resolve arguments nameSpan).diagnostic? = none) ∨
      ∃ err d, colorOfList arguments nameSpan = .error err ∧ err.toDiagnostic? none = some d ∧
        (resolve arguments nameSpan).rgba = .fallback ∧
        (resolve arguments nameSpan).diagnostic? = some d) ∧
    ∀ first rest others, arguments = first :: rest →
      others.map Argument.expr = rest.map Argument.expr →
        resolve (first :: others) nameSpan = resolve arguments nameSpan := by
  refine ⟨fun color => resolve_eq_color_iff, ?_, ?_⟩
  · cases h : colorOfList arguments nameSpan with
    | ok color =>
      have hcolor : resolve arguments nameSpan = .color color :=
        resolve_eq_color_iff.2 (colorOfList_eq_ok_iff.1 h)
      exact .inl ⟨color, hcolor, by rw [hcolor]; rfl, by rw [hcolor]; rfl⟩
    | error err =>
      obtain ⟨d, hd, hfailure⟩ := resolve_of_error h
      exact .inr ⟨err, d, rfl, hd, by rw [hfailure]; rfl, by rw [hfailure]; rfl⟩
  · rintro first rest others rfl h
    exact resolve_congr h

/-- Four numbers with underscores, blanks, a zero in front and a sign, under labels of which only
the first one counts, spell a color. With a third byte beyond the range they spell none. -/
theorem resolve_iff_spells_padded :
    ∃ first second fourth : Argument,
      first = ⟨some ⟨"RGBa".toList, ⟨7, 11⟩⟩, .integer "00_7".toList ⟨13, 17⟩⟩ ∧
      second = ⟨none, .prefixed "-0_".toList ⟨19, 22⟩ ['-'] (.integer "0_".toList ⟨20, 22⟩)⟩ ∧
      fourth = ⟨none, .float "0.5_0".toList ⟨30, 35⟩⟩ ∧
      resolve [first, second, ⟨some ⟨"hex".toList, ⟨24, 27⟩⟩, .integer " 2_55 ".toList ⟨28, 34⟩⟩,
        fourth] ⟨1, 6⟩ = .color ⟨.ofNat 7 / 255, .ofNat 0 / 255, .ofNat 255 / 255, 1 / 2⟩ ∧
      ∀ color, ¬ Spells [first, second, ⟨none, .integer "2_56".toList ⟨24, 28⟩⟩, fourth] color := by
  have hnil : Text.IsBlanks [] := List.forall_mem_nil _
  have hblank : Text.IsBlanks [' '] := List.forall_mem_singleton.2 (by decide)
  have hred : (Expr.integer "00_7".toList ⟨13, 17⟩).IsByte 7 :=
    ⟨.literal ⟨[], "007".toList, [], by decide, hnil, by decide, hnil⟩, by decide⟩
  have hzero : Literal.IsDecimal "0_".toList 0 :=
    ⟨[], ['0'], [], by decide, hnil, by decide, hnil⟩
  have hgreen : (Expr.prefixed "-0_".toList ⟨19, 22⟩ ['-']
      (.integer "0_".toList ⟨20, 22⟩)).IsByte 0 := ⟨.negated hzero, by decide⟩
  have hblue : (Expr.integer " 2_55 ".toList ⟨28, 34⟩).IsByte 255 :=
    ⟨.literal ⟨[' '], "255".toList, [' '], by decide, hblank, by decide, hblank⟩, by decide⟩
  have halpha : (Expr.float "0.5_0".toList ⟨30, 35⟩).IsAlpha (1 / 2) :=
    ⟨.literal rfl (by decide +kernel), by decide +kernel, by decide +kernel⟩
  refine ⟨_, _, _, rfl, rfl, rfl, ?_, fun color hcolor => ?_⟩
  · refine ((resolve_iff_spells _ _).1 _).2 ⟨.rgba, ⟨⟨_, _, _, rfl, rfl, by decide⟩, rfl⟩, ?_⟩
    exact .channels hred hgreen hblue (.rgb (.inr rfl)) (.given rfl halpha)
  · have hresolve := ((resolve_iff_spells _ ⟨1, 6⟩).1 color).2 hcolor
    have hnone : _ = none := congrArg Resolution.diagnostic? hresolve
    exact absurd hnone (by decide +kernel)

end Argument

end ColorLiteral
