import ColorLiteral.Proofs.Color.Bytes
import ColorLiteral.Proofs.Resolution.Blame
import ColorLiteral.Proofs.Session.Journal

/-!
# Two spellings of one color

Three or six hexadecimal digits and three decimal bytes spell the same color if the bytes of the
digits are the decimal ones, and so do the bytes with an alpha of one. The invocations resolve to
equal colors, so that they are expanded alike in every session, whichever surface is chosen
(`spellings_agree`).

Both ways lead to the bytes over 255. Digits without alpha stand for the alpha byte 255
(`Hex.exists_ofBytes_of_length`), and that byte over 255 is one.
-/

namespace ColorLiteral

/-! ### Hexadecimal digits without alpha -/

namespace Hex

variable {t : Text} {color : Rgba}

theorem exists_of_length_eq_six {digits : Text} (h : digits.length = 6) :
    ∃ r₁ r₀ g₁ g₀ b₁ b₀, digits = [r₁, r₀, g₁, g₀, b₁, b₀] := by
  match digits, h with
  | [r₁, r₀, g₁, g₀, b₁, b₀], _ => exact ⟨r₁, r₀, g₁, g₀, b₁, b₀, rfl⟩

theorem getLast?_pairBytes_fullForm {digits : Text} (h : digits.length = 3 ∨ digits.length = 6) :
    (pairBytes (fullForm digits)).getLast? = some 255 := by
  rcases h with h | h
  · obtain ⟨r, g, b, rfl⟩ := List.length_eq_three.1 h
    simp [fullForm, pairBytes, digitValue_F]
  · obtain ⟨r₁, r₀, g₁, g₀, b₁, b₀, rfl⟩ := exists_of_length_eq_six h
    simp [fullForm, pairBytes, digitValue_F]

/-- A color without alpha digits is opaque, and its other channels are bytes. -/
theorem exists_ofBytes_of_length (hdecode : decode t = .ok color)
    (hlength : (normalize t).length = 3 ∨ (normalize t).length = 6) :
    ∃ red green blue, red < 256 ∧ green < 256 ∧ blue < 256 ∧
      color = .ofBytes red green blue 255 := by
  have hspells := decode_eq_ok_iff.1 hdecode
  obtain ⟨red, green, blue, alpha, hbytes, rfl⟩ := hspells.bytes
  have hlt := pairBytes_lt (isDigit_fullForm hspells.isDigit)
  have hlast := getLast?_pairBytes_fullForm hlength
  rw [hbytes] at hlt hlast
  obtain rfl : alpha = 255 := by simpa using hlast
  exact ⟨red, green, blue, hlt red (by simp), hlt green (by simp), hlt blue (by simp), rfl⟩

end Hex

theorem Rgba.toBytes_ofBytes {red green blue alpha : Nat} (hred : red < 256) (hgreen : green < 256)
    (hblue : blue < 256) (halpha : alpha < 256) :
    (Rgba.ofBytes red green blue alpha).toBytes = [red, green, blue, alpha] := by
  simp only [toBytes, channels, ofBytes, List.map_cons, List.map_nil,
    byteOfChannel_channelOfByte hred, byteOfChannel_channelOfByte hgreen,
    byteOfChannel_channelOfByte hblue, byteOfChannel_channelOfByte halpha]

/-! ### Invocations -/

/-- An integer literal, with any zeros in front and any underscores. -/
def Expr.IsIntegerLiteral (e : Expr) (n : Nat) : Prop :=
  ∃ text span, e = .integer text span ∧ Literal.IsDecimal text n

theorem Expr.IsIntegerLiteral.isByte {e : Expr} {n : Nat} (h : e.IsIntegerLiteral n)
    (hn : n < 256) : e.IsByte n := by
  obtain ⟨text, span, rfl, hdecimal⟩ := h
  exact ⟨.literal hdecimal, Nat.le_of_lt_succ hn⟩

namespace Invocation

/-- The invocation gives a text of hexadecimal digits. -/
def GivesHex (i : Invocation) (t : Text) : Prop :=
  ∃ a, i.arguments = [a] ∧ a.Names .hex ∧ a.expr.IsPlainString t

/-- The invocation gives three integer literals in a variant, and further expressions. -/
def GivesIntegers (i : Invocation) (v : Variant) (red green blue : Nat) (rest : List Expr) : Prop :=
  ∃ first second third others, i.arguments = first :: second :: third :: others ∧ first.Names v ∧
    first.expr.IsIntegerLiteral red ∧ second.expr.IsIntegerLiteral green ∧
    third.expr.IsIntegerLiteral blue ∧ others.map Argument.expr = rest

variable {i : Invocation} {t : Text} {color : Rgba} {v : Variant} {red green blue : Nat}
  {rest : List Expr}

theorem GivesHex.resolve_eq (hi : i.GivesHex t) (hdecode : Hex.decode t = .ok color) :
    i.resolve = .color color := by
  obtain ⟨a, harguments, ⟨label, hlabel, hname⟩, hplain⟩ := hi
  refine Argument.resolve_eq_color_iff.2 ⟨.hex, ?_, ?_⟩
  · exact ⟨⟨a, [], label, harguments, hlabel, hname⟩, by rw [harguments]; rfl⟩
  · rw [harguments]
    exact .hex hplain hdecode

theorem GivesIntegers.resolve_eq (hi : i.GivesIntegers v red green blue rest)
    (hv : v = .rgb ∨ v = .rgba) (hred : red < 256) (hgreen : green < 256) (hblue : blue < 256)
    (halpha : Argument.SpellsAlpha v rest 1) :
    i.resolve = .color (.ofBytes red green blue 255) := by
  obtain ⟨first, second, third, others, harguments, ⟨label, hlabel, hname⟩, hfirst, hsecond, hthird,
    rfl⟩ := hi
  have hcount : others.length + 3 = v.arity := by
    rw [← List.length_map (f := Argument.expr)]
    generalize others.map Argument.expr = rest at halpha
    rcases hv with rfl | rfl <;> cases halpha with
    | absent h | given h => first | rfl | cases h
  have hcolor : Rgba.ofBytes red green blue 255 =
      ⟨.ofNat red / 255, .ofNat green / 255, .ofNat blue / 255, 1⟩ := by
    rw [Rgba.ofBytes, Rgba.channelOfByte_255]
    rfl
  rw [hcolor]
  refine Argument.resolve_eq_color_iff.2 ⟨v, ?_, ?_⟩
  · refine ⟨⟨first, _, label, harguments, hlabel, hname⟩, ?_⟩
    rw [harguments]
    exact hcount
  · rw [harguments]
    exact .channels (hfirst.isByte hred) (hsecond.isByte hgreen) (hthird.isByte hblue) (.rgb hv)
      halpha

end Invocation

/-! ### Agreement -/

variable {t : Text} {color : Rgba} {red green blue : Nat} {alpha : Expr} {i j k : Invocation}

/-- Hexadecimal digits without alpha, the three bytes that they spell, and these bytes with an alpha
that is read as one, all resolve to the same color. So they are expanded to the same expression on
every surface, or end in the same error. -/
theorem spellings_agree (hdecode : Hex.decode t = .ok color)
    (hlength : (Hex.normalize t).length = 3 ∨ (Hex.normalize t).length = 6)
    (hbytes : color.toBytes.take 3 = [red, green, blue]) (halpha : alpha.IsAlpha 1)
    (hi : i.GivesHex t) (hj : j.GivesIntegers .rgb red green blue [])
    (hk : k.GivesIntegers .rgba red green blue [alpha]) :
    (∀ x ∈ [i, j, k], x.resolve = .color color) ∧
    ∀ x ∈ [i, j, k], ∀ y ∈ [i, j, k], ∀ source source',
      Invocation.parse source = .ok x → Invocation.parse source' = .ok y →
        ∀ choice (s : Session), Outcome.Related Eq Expansion.SameButSource
          (Task.expand source choice s).1 (Task.expand source' choice s).1 := by
  obtain ⟨r, g, b, hr, hg, hb, rfl⟩ := Hex.exists_ofBytes_of_length hdecode hlength
  obtain ⟨rfl, rfl, rfl⟩ : r = red ∧ g = green ∧ b = blue := by
    rw [Rgba.toBytes_ofBytes hr hg hb (by decide)] at hbytes
    simpa using hbytes
  have hresolve : ∀ x ∈ [i, j, k], x.resolve = .color (.ofBytes r g b 255) := by
    simp only [List.mem_cons, List.not_mem_nil, or_false]
    rintro x (rfl | rfl | rfl)
    · exact hi.resolve_eq hdecode
    · exact hj.resolve_eq (.inl rfl) hr hg hb (.absent rfl)
    · exact hk.resolve_eq (.inr rfl) hr hg hb (.given rfl halpha)
  refine ⟨hresolve, fun x hx y hy source source' hsource hsource' choice s => ?_⟩
  have hsame : x.resolve = y.resolve := (hresolve x hx).trans (hresolve y hy).symm
  exact (alike_expand hsource hsource' hsame choice s s (.refl s)).1

/-- Digits behind a marker, and bytes with underscores and with zeros in front. -/
theorem spellings_agree_orange :
    ∃ i j k, Invocation.parse "#Color(hex: \"#F80\")".toList = .ok i ∧
      Invocation.parse "#Color(rgb: 2_55, 0136, 0)".toList = .ok j ∧
      Invocation.parse "#Color(RGBA: 255, 136, 00, 1.0)".toList = .ok k ∧
      (∀ x ∈ [i, j, k], x.resolve = .color (.ofBytes 255 136 0 255)) ∧
      ∀ choice (s : Session), Outcome.Related Eq Expansion.SameButSource
        (Task.expand "#Color(hex: \"#F80\")".toList choice s).1
        (Task.expand "#Color(rgb: 2_55, 0136, 0)".toList choice s).1 := by
  let digits : Argument :=
    ⟨some ⟨"hex".toList, ⟨7, 10⟩⟩, .string "\"#F80\"".toList ⟨12, 18⟩ [⟨"#F80".toList, false⟩]⟩
  let i : Invocation := ⟨"Color".toList, ⟨1, 6⟩, [digits]⟩
  let j : Invocation := ⟨"Color".toList, ⟨1, 6⟩,
    [⟨some ⟨"rgb".toList, ⟨7, 10⟩⟩, .integer "2_55".toList ⟨12, 16⟩⟩,
      ⟨none, .integer "0136".toList ⟨18, 22⟩⟩, ⟨none, .integer "0".toList ⟨24, 25⟩⟩]⟩
  let k : Invocation := ⟨"Color".toList, ⟨1, 6⟩,
    [⟨some ⟨"RGBA".toList, ⟨7, 11⟩⟩, .integer "255".toList ⟨13, 16⟩⟩,
      ⟨none, .integer "136".toList ⟨18, 21⟩⟩, ⟨none, .integer "00".toList ⟨23, 25⟩⟩,
      ⟨none, .float "1.0".toList ⟨27, 30⟩⟩]⟩
  have hi : Invocation.parse "#Color(hex: \"#F80\")".toList = .ok i := by decide +kernel
  have hj : Invocation.parse "#Color(rgb: 2_55, 0136, 0)".toList = .ok j := by decide +kernel
  have hk : Invocation.parse "#Color(RGBA: 255, 136, 00, 1.0)".toList = .ok k := by decide +kernel
  have hdecode : Hex.decode "#F80" = .ok (.ofBytes 255 136 0 255) := by decide +kernel
  have hbytes : (Rgba.ofBytes 255 136 0 255).toBytes.take 3 = [255, 136, 0] := by decide +kernel
  have halpha : (Expr.float "1.0".toList ⟨27, 30⟩).IsAlpha 1 :=
    ⟨.literal rfl (by decide +kernel), by decide +kernel, by decide +kernel⟩
  have hread (text : Text) (span : Span) (n : Nat)
      (h : Literal.readInteger? text = some n) : (Expr.integer text span).IsIntegerLiteral n :=
    ⟨text, span, rfl, (Literal.readInteger?_eq_some_iff.1 h).1⟩
  have hhex : i.GivesHex "#F80" := ⟨digits, rfl, ⟨_, rfl, by decide⟩, _, _, _, rfl, rfl, rfl⟩
  have hrgb : j.GivesIntegers .rgb 255 136 0 [] :=
    ⟨_, _, _, _, rfl, ⟨_, rfl, by decide⟩, hread "2_55" _ _ (by decide +kernel),
      hread "0136" _ _ (by decide +kernel), hread "0" _ _ (by decide +kernel), rfl⟩
  have hrgba : k.GivesIntegers .rgba 255 136 0 [.float "1.0".toList ⟨27, 30⟩] :=
    ⟨_, _, _, _, rfl, ⟨_, rfl, by decide⟩, hread "255" _ _ (by decide +kernel),
      hread "136" _ _ (by decide +kernel), hread "00" _ _ (by decide +kernel), rfl⟩
  obtain ⟨hresolve, hexpand⟩ :=
    spellings_agree hdecode (.inl (by decide)) hbytes halpha hhex hrgb hrgba
  exact ⟨i, j, k, hi, hj, hk, hresolve, hexpand i (by simp) j (by simp) _ _ hi hj⟩

end ColorLiteral
