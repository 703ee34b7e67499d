import ColorLiteral.Proofs.Color.Bytes
import ColorLiteral.Proofs.Invocation.Written
import ColorLiteral.Proofs.Resolution.Blame
import ColorLiteral.Proofs.Session.Batch

/-!
# Expanding an expansion

On the packaged surface for style sheets a color of bytes is written as `#` and eight digits. In an
invocation of their own these digits expand to the same color and to themselves (`expand_rewritten`).

Hexadecimal digits and three bytes give colors of bytes only (`Argument.isOfBytes_of_spells`), and
such a color is told from its digits. The invocation that the digits are put into is parsed as every
written call is.
-/

namespace ColorLiteral

/-! ### Hexadecimal colors and colors of three bytes -/

namespace Argument

variable {arguments : List Argument} {color : Rgba}

theorem eq_of_names {a : Argument} {v v' : Variant} (h : a.Names v) (h' : a.Names v') : v = v' := by
  obtain ⟨label, hlabel, hname⟩ := h
  obtain ⟨label', hlabel', hname'⟩ := h'
  obtain rfl : label = label' := Option.some.inj (hlabel.symm.trans hlabel')
  have hv := Variant.ofLabel?_eq_some_iff.2 hname
  have hv' := Variant.ofLabel?_eq_some_iff.2 hname'
  exact Option.some.inj (hv.symm.trans hv')

/-- The first argument says that the color is written in hexadecimal digits or as three bytes. -/
def StartsHexOrRgb (arguments : List Argument) : Prop :=
  ∃ first rest, arguments = first :: rest ∧ (first.Names .hex ∨ first.Names .rgb)

theorem not_spellsChannels_hex {a b c : Nat} {channels : Binary64 × Binary64 × Binary64} :
    ¬ SpellsChannels a b c .hex channels := by
  intro h
  cases h with
  | rgb hv | hsl hv | hsb hv => rcases hv with hv | hv <;> cases hv

theorem eq_of_spellsChannels {a b c : Nat} {channels : Binary64 × Binary64 × Binary64}
    (h : SpellsChannels a b c .rgb channels) :
    channels = (Rgba.channelOfByte a, Rgba.channelOfByte b, Rgba.channelOfByte c) := by
  cases h with
  | rgb => rfl
  | hsl hv | hsb hv => rcases hv with hv | hv <;> cases hv

theorem eq_one_of_spellsAlpha {v : Variant} {rest : List Expr} {alpha : Binary64}
    (hv : v.hasAlpha = false) (h : SpellsAlpha v rest alpha) : alpha = 1 := by
  cases h with
  | absent => rfl
  | given hv' => cases hv.symm.trans hv'

theorem isOfBytes_of_spellsColor {v : Variant} {exprs : List Expr} (hv : v = .hex ∨ v = .rgb)
    (h : SpellsColor v exprs color) : color.IsOfBytes := by
  cases h with
  | hex _ hdecode => exact Hex.isOfBytes_of_decode hdecode
  | channels hfirst hsecond hthird hchannels halpha =>
    rcases hv with rfl | rfl
    · exact absurd hchannels not_spellsChannels_hex
    · obtain ⟨hred, hrest⟩ := Prod.mk.inj (eq_of_spellsChannels hchannels)
      obtain ⟨hgreen, hblue⟩ := Prod.mk.inj hrest
      rw [hred, hgreen, hblue, eq_one_of_spellsAlpha rfl halpha, ← Rgba.channelOfByte_255]
      exact .mk (Nat.lt_succ_of_le hfirst.2) (Nat.lt_succ_of_le hsecond.2)
        (Nat.lt_succ_of_le hthird.2) (by decide)

/-- Hexadecimal digits and three bytes spell colors of bytes. -/
theorem isOfBytes_of_spells (hstart : StartsHexOrRgb arguments) (h : Spells arguments color) :
    color.IsOfBytes := by
  obtain ⟨first, rest, rfl, hnames⟩ := hstart
  obtain ⟨v, ⟨⟨first', rest', label, heq, hlabel, hname⟩, -⟩, hspells⟩ := h
  obtain ⟨rfl, rfl⟩ := List.cons.inj heq
  refine isOfBytes_of_spellsColor ?_ hspells
  have hv : first.Names v := ⟨label, hlabel, hname⟩
  exact hnames.imp (eq_of_names hv) (eq_of_names hv)

end Argument

/-! ### The invocation of a text of digits -/

/-- The invocation that gives a text as a hexadecimal color. -/
def hexSource (t : Text) : Text := "#Color(hex: \"" ++ t ++ "\")"

namespace Written

/-- The name of every invocation that gives a color. -/
def colorName : Name := ⟨'C', "olor", by decide, List.all_iff_forall_prop.1 (by decide)⟩

/-- The label of a hexadecimal color. -/
def hexLabel : Name := ⟨'h', "ex", by decide, List.all_iff_forall_prop.1 (by decide)⟩

/-- The call with a body as a hexadecimal color. -/
def hexCall (b : Body) : Call := ⟨colorName, [⟨some hexLabel, .quoted b⟩]⟩

theorem Value.IsReadAs.isPlainString {b : Body} {e : Expr} (h : (Value.quoted b).IsReadAs e) :
    e.IsPlainString b.text := by
  cases h with
  | quoted => exact ⟨_, _, _, rfl, rfl, rfl⟩

theorem colorName_text : colorName.text = "Color".toList := by decide

theorem hexLabel_text : hexLabel.text = "hex".toList := by decide

theorem hexCall_text (b : Body) : (hexCall b).text = hexSource b.text := by
  have hname : (hexCall b).name.text = "Color".toList := colorName_text
  have hitems : bodyText (hexCall b).items = "hex".toList ++ [':', ' '] ++ b.quoted := by
    simp [bodyText, Text.joinWith, hexCall, Item.text, Item.labelText, Value.text, hexLabel_text]
  rw [Call.text, hname, hitems, Body.quoted]
  show _ = "#Color(hex: \"".toList ++ b.text ++ "\")".toList
  simp

end Written

variable {color : Rgba}

theorem Hex.IsLongText.plain {t : Text} (h : Hex.IsLongText t) :
    ∀ c ∈ t, c ≠ '"' ∧ c ≠ '\\' ∧ c ≠ '\n' := by
  obtain ⟨digits, rfl, -, hlower⟩ := h
  have hall : ∀ c ∈ Hex.lowerDigits, c ≠ '"' ∧ c ≠ '\\' ∧ c ≠ '\n' :=
    List.all_iff_forall_prop.1 (by decide)
  exact List.forall_mem_cons.2 ⟨by decide, fun c hc => hall c (hlower c hc)⟩

/-- The invocation of the digits of a color of bytes resolves to that color. -/
theorem exists_parse_hexSource (h : color.IsOfBytes) :
    ∃ i, Invocation.parse (hexSource color.toHexAlpha) = .ok i ∧ i.resolve = .color color := by
  have hbody := (Hex.isLongText_toHexAlpha h).plain
  obtain ⟨i, hparse, -, hitems⟩ := (Written.hexCall ⟨color.toHexAlpha, hbody⟩).exists_parse
  rw [Written.hexCall_text] at hparse
  obtain ⟨a, rest, ha, hrest, harguments⟩ := List.forall₂_cons_left_iff.1 hitems
  obtain rfl := List.forall₂_nil_left_iff.1 hrest
  obtain ⟨label, hlabel, htext⟩ := Option.map_eq_some_iff.1 ha.label
  have hselects : Argument.Selects [a] .hex :=
    ⟨⟨a, [], label, rfl, hlabel, by rw [htext]; decide⟩, rfl⟩
  have hspells : Argument.SpellsColor .hex [a.expr] color := by
    refine .hex ?_ (Hex.decode_toHexAlpha h)
    exact ha.value.isPlainString
  refine ⟨i, hparse, Argument.resolve_eq_color_iff.2 ?_⟩
  rw [harguments]
  exact ⟨.hex, hselects, hspells⟩

/-! ### Expanding twice -/

namespace SurfaceTable

/-- The name of the packaged surface for style sheets. -/
def styleSheet : Text := "css"

theorem exists_surface_styleSheet : ∃ surface, packaged.surface? styleSheet = some surface ∧
    ∀ (color : Rgba) attributes, surface.write attributes color = .ok color.toHexAlpha := by
  refine ⟨⟨field "hexa", "transparent"⟩, surface?_css, fun color attributes => ?_⟩
  have hfill := Template.fill_written attributes color [.placeholder .hexa]
  rw [Surface.write]
  exact hfill.trans (by simp [Template.Part.value, Template.Placeholder.value])

end SurfaceTable

open SurfaceTable (packaged styleSheet)

variable {s s' : Session} {choice choice' : Option Text} {source : Text} {i : Invocation}
  {x : Expansion}

section

variable (hs : s.Offers packaged)
  (hchoice : packaged.nameFor? s.host.environment choice = some styleSheet)
  (hparse : Invocation.parse source = .ok i)

include hs hchoice hparse

/-- On the surface for style sheets an invocation with a color expands to the digits of the color. -/
theorem expand_styleSheet (hcolor : i.resolve = .color color) :
    (Task.expand source choice s).1 = .ok ⟨source, color.toHexAlpha, .color color⟩ := by
  obtain ⟨surface, hsurface, hwrite⟩ := SurfaceTable.exists_surface_styleSheet
  have houtcome : ExpansionOutcome.ofSource source = .color color := by
    rw [ExpansionOutcome.ofSource, hparse]
    exact congrArg Resolution.outcome hcolor
  have hexpansion : IsExpansion surface source ⟨source, color.toHexAlpha, .color color⟩ :=
    ⟨rfl, houtcome.symm, hwrite color⟩
  exact (ends_expand hchoice hsurface hparse hexpansion s ⟨rfl, rfl, hs⟩).1

theorem resolve_of_expand_styleSheet (hx : (Task.expand source choice s).1 = .ok x)
    (hcolor : x.isColor = true) : ∃ color, i.resolve = .color color := by
  obtain ⟨surface, hsurface, hwrite⟩ := SurfaceTable.exists_surface_styleSheet
  obtain ⟨y, hy⟩ := exists_isExpansion (fun color => ⟨_, hwrite color⟩) source
  have hend := (ends_expand hchoice hsurface hparse hy s ⟨rfl, rfl, hs⟩).1
  obtain rfl : x = y := Except.ok.inj (hx.symm.trans hend)
  have houtcome : x.outcome = i.resolve.outcome := by
    rw [hy.outcome_eq, ExpansionOutcome.ofSource, hparse]
  cases hresolve : i.resolve with
  | color color => exact ⟨color, rfl⟩
  | failure d =>
    rw [hresolve] at houtcome
    rw [Expansion.isColor, houtcome] at hcolor
    cases hcolor

end

/-- What hexadecimal digits or three bytes expand to for style sheets is `#` and eight lower-case
digits. As the digits of an invocation they expand to themselves, with the same color. -/
theorem expand_rewritten (hs : s.Offers packaged)
    (hchoice : packaged.nameFor? s.host.environment choice = some styleSheet)
    (hs' : s'.Offers packaged)
    (hchoice' : packaged.nameFor? s'.host.environment choice' = some styleSheet)
    (hparse : Invocation.parse source = .ok i) (hstart : Argument.StartsHexOrRgb i.arguments)
    (hx : (Task.expand source choice s).1 = .ok x) (hcolor : x.isColor = true) :
    Hex.IsLongText x.expression ∧ (Task.expand (hexSource x.expression) choice' s').1 =
      .ok { x with source := hexSource x.expression } := by
  obtain ⟨color, hresolve⟩ := resolve_of_expand_styleSheet hs hchoice hparse hx hcolor
  have hexpand := expand_styleSheet hs hchoice hparse hresolve
  obtain rfl : x = ⟨source, color.toHexAlpha, .color color⟩ :=
    Except.ok.inj (hx.symm.trans hexpand)
  have hbytes : color.IsOfBytes :=
    Argument.isOfBytes_of_spells hstart (Argument.resolve_eq_color_iff.1 hresolve)
  obtain ⟨j, hagain, hsame⟩ := exists_parse_hexSource hbytes
  exact ⟨Hex.isLongText_toHexAlpha hbytes, expand_styleSheet hs' hchoice' hagain hsame⟩

/-- Three bytes, one of them with an underscore. -/
theorem expand_rewritten_underscore :
    ∃ x, (Task.expand "#Color(rgb: 250, 0, 1_6)".toList (some styleSheet)
        (Session.start (Config.Host.packaged .empty))).1 = .ok x ∧ x.isColor = true ∧
      x.expression = "#fa0010ff".toList ∧ Hex.IsLongText x.expression ∧
      (Task.expand (hexSource x.expression) (some styleSheet)
        (Session.start (Config.Host.packaged .empty))).1 =
          .ok { x with source := hexSource x.expression } := by
  have hparse : Invocation.parse "#Color(rgb: 250, 0, 1_6)".toList = .ok
      ⟨"Color".toList, ⟨1, 6⟩,
        [⟨some ⟨"rgb".toList, ⟨7, 10⟩⟩, .integer "250".toList ⟨12, 15⟩⟩,
          ⟨none, .integer "0".toList ⟨17, 18⟩⟩, ⟨none, .integer "1_6".toList ⟨20, 23⟩⟩]⟩ := by
    decide +kernel
  have hstart : Argument.StartsHexOrRgb
      [⟨some ⟨"rgb".toList, ⟨7, 10⟩⟩, .integer "250".toList ⟨12, 15⟩⟩,
        ⟨none, .integer "0".toList ⟨17, 18⟩⟩, ⟨none, .integer "1_6".toList ⟨20, 23⟩⟩] :=
    ⟨_, _, rfl, .inr ⟨_, rfl, by decide⟩⟩
  have hs : (Session.start (Config.Host.packaged .empty)).Offers packaged :=
    Session.offers_start_packaged rfl
  have hchoice : packaged.nameFor? (Session.start (Config.Host.packaged .empty)).host.environment
      (some styleSheet) = some styleSheet := rfl
  have hresolve : Invocation.resolve ⟨"Color".toList, ⟨1, 6⟩,
      [⟨some ⟨"rgb".toList, ⟨7, 10⟩⟩, .integer "250".toList ⟨12, 15⟩⟩,
        ⟨none, .integer "0".toList ⟨17, 18⟩⟩, ⟨none, .integer "1_6".toList ⟨20, 23⟩⟩]⟩ =
          .color (.ofBytes 250 0 16 255) := by
    decide +kernel
  have hexpand := expand_styleSheet hs hchoice hparse hresolve
  have htext : (Rgba.ofBytes 250 0 16 255).toHexAlpha = "#fa0010ff".toList := by decide +kernel
  exact ⟨_, hexpand, rfl, htext,
    expand_rewritten hs hchoice hs hchoice hparse hstart hexpand rfl⟩

end ColorLiteral
