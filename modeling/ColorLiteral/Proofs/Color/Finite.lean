import ColorLiteral.Proofs.Binary64.Bounded
import ColorLiteral.Proofs.Color.Bytes
import ColorLiteral.Proofs.Resolution.Spelling

/-!
# Resolved colors are finite

A literal may read as an infinity, and arithmetic may lead to one, but neither gets into a color: an
alpha lies between zero and one, and the other channels come from bytes, through conversions that
keep them small (`ColorSpace.allBelow_rgbOfHsl`, `ColorSpace.allBelow_rgbOfHsb`). So all channels of
a color that arguments spell are finite (`Argument.isFinite_of_spells`), and so are those of the
fallback color.
-/

namespace ColorLiteral

open Binary64 (IsBelow)

/-! ### Conversions -/

namespace ColorSpace

open ColorScalar (num abs rem less)

variable {k : Nat} {hue saturation lightness brightness h c x m : Binary64}

/-- All three channels are below a power of two. -/
def AllBelow (k : Nat) (channels : Binary64 × Binary64 × Binary64) : Prop :=
  IsBelow k channels.1 ∧ IsBelow k channels.2.1 ∧ IsBelow k channels.2.2

theorem isBelow_num {n : Nat} (hk : k < 128) (hn : n < 2 ^ k) : IsBelow (k + 1) (num n) :=
  IsBelow.ofNat hk hn

theorem isBelow_wrapHue (hk : 9 ≤ k) (hk' : k < 126) (hhue : IsBelow k hue) :
    IsBelow (k + 3) (wrapHue hue) := by
  have hrem : IsBelow (k + 1) (rem hue (num 360)) := hhue.rem (by omega) (by decide) (by decide)
  have hturn : IsBelow (k + 1) (num 360) :=
    IsBelow.mono (isBelow_num (k := 9) (by decide) (by decide)) (by omega)
  unfold wrapHue
  dsimp only
  split
  · exact hrem.add (by omega) hturn
  · exact hrem.mono (by omega)

theorem allBelow_sectorChannels (hk : 1 ≤ k) (hc : IsBelow k c) (hx : IsBelow k x) :
    AllBelow k (sectorChannels h c x) := by
  have hzero : IsBelow k (num 0) :=
    IsBelow.mono (isBelow_num (k := 0) (by decide) (by decide)) hk
  unfold sectorChannels
  split
  · exact ⟨hc, hx, hzero⟩
  split
  · exact ⟨hx, hc, hzero⟩
  split
  · exact ⟨hzero, hc, hx⟩
  split
  · exact ⟨hzero, hx, hc⟩
  split
  · exact ⟨hx, hzero, hc⟩
  · exact ⟨hc, hzero, hx⟩

theorem allBelow_shifted (hk : 1 ≤ k) (hk' : k < 126) (hc : IsBelow k c) (hx : IsBelow k x)
    (hm : IsBelow k m) : AllBelow (k + 2) (shifted h c x m) := by
  obtain ⟨hred, hgreen, hblue⟩ := allBelow_sectorChannels (h := h) hk hc hx
  exact ⟨hred.add (by omega) hm, hgreen.add (by omega) hm, hblue.add (by omega) hm⟩

/-- How far the middle channel of a sector is from the greatest one. -/
theorem isBelow_middle (hk : 1 ≤ k) (hk' : k < 120) (hh : IsBelow k h) :
    IsBelow (k + 5) (num 1 - abs (rem h (num 2) - num 1)) := by
  have hone : IsBelow 2 (num 1) := isBelow_num (by decide) (by decide)
  have hrem : IsBelow (k + 1) (rem h (num 2)) := hh.rem (by omega) (by decide) (by decide)
  have hdistance : IsBelow (k + 3) (abs (rem h (num 2) - num 1)) :=
    (hrem.sub (by omega) (hone.mono (by omega))).abs
  exact (hone.mono (by omega)).sub (by omega) hdistance

theorem isBelow_percent (hk : k < 128) (hx : IsBelow k x) : IsBelow (k + 1) (x / num 100) :=
  hx.div hk (by decide) (by decide)

theorem allBelow_rgbOfHsl (hhue : IsBelow 9 hue) (hsaturation : IsBelow 9 saturation)
    (hlightness : IsBelow 9 lightness) : AllBelow 55 (rgbOfHsl hue saturation lightness) := by
  have hone : IsBelow 2 (num 1) := isBelow_num (by decide) (by decide)
  have htwo : IsBelow 3 (num 2) := isBelow_num (by decide) (by decide)
  have hsix : IsBelow 4 (num 6) := isBelow_num (by decide) (by decide)
  have hwrapped : IsBelow 12 (wrapHue hue) := isBelow_wrapHue (by decide) (by decide) hhue
  have hturns : IsBelow 13 (wrapHue hue / num 360) :=
    hwrapped.div (by decide) (by decide) (by decide)
  have hs : IsBelow 10 (saturation / num 100) := isBelow_percent (by decide) hsaturation
  have hl : IsBelow 10 (lightness / num 100) := isBelow_percent (by decide) hlightness
  have hdouble := htwo.mul (by decide) hl
  have hdistance : IsBelow 16 (abs (num 2 * (lightness / num 100) - num 1)) :=
    (hdouble.sub (by decide) (hone.mono (by decide))).abs
  have hrange : IsBelow 18 (num 1 - abs (num 2 * (lightness / num 100) - num 1)) :=
    (hone.mono (by decide)).sub (by decide) hdistance
  have hc := hrange.mul (by decide) hs
  have hsector := hturns.mul (by decide) hsix
  have hx := hc.mul (by decide) (isBelow_middle (by decide) (by decide) hsector)
  have hhalf := hc.div (n := 2) (by decide) (by decide) (by decide)
  have hoffset := (hl.mono (k := 30) (by decide)).sub (by decide) hhalf
  exact allBelow_shifted (k := 53) (by decide) (by decide) (hc.mono (by decide)) hx
    (hoffset.mono (by decide))

theorem allBelow_rgbOfHsb (hhue : IsBelow 9 hue) (hsaturation : IsBelow 9 saturation)
    (hbrightness : IsBelow 9 brightness) : AllBelow 42 (rgbOfHsb hue saturation brightness) := by
  have hwrapped : IsBelow 12 (wrapHue hue) := isBelow_wrapHue (by decide) (by decide) hhue
  have hsector : IsBelow 13 (wrapHue hue / num 60) :=
    hwrapped.div (by decide) (by decide) (by decide)
  have hs : IsBelow 10 (saturation / num 100) := isBelow_percent (by decide) hsaturation
  have hv : IsBelow 10 (brightness / num 100) := isBelow_percent (by decide) hbrightness
  have hc := hv.mul (by decide) hs
  have hx := hc.mul (by decide) (isBelow_middle (by decide) (by decide) hsector)
  have hoffset := (hv.mono (k := 21) (by decide)).sub (by decide) hc
  exact allBelow_shifted (k := 40) (by decide) (by decide) (hc.mono (by decide)) hx
    (hoffset.mono (by decide))

end ColorSpace

/-! ### Colors -/

namespace Rgba

/-- All channels of a color are finite. -/
def IsFinite (color : Rgba) : Prop := ∀ x ∈ color.channels, x.isFinite = true

theorem isFinite_mk {red green blue alpha : Binary64} (hred : red.isFinite = true)
    (hgreen : green.isFinite = true) (hblue : blue.isFinite = true)
    (halpha : alpha.isFinite = true) : IsFinite ⟨red, green, blue, alpha⟩ := by
  simp [IsFinite, channels, hred, hgreen, hblue, halpha]

theorem isBelow_byte {n : Nat} (hn : n < 256) : IsBelow 9 (.ofNat n) :=
  IsBelow.ofNat (by decide) hn

theorem isBelow_channelOfByte {n : Nat} (hn : n < 256) : IsBelow 10 (channelOfByte n) :=
  (isBelow_byte hn).div (by decide) (by decide) (by decide)

theorem IsOfBytes.isFinite {color : Rgba} (h : color.IsOfBytes) : color.IsFinite := by
  obtain ⟨hred, hgreen, hblue, halpha⟩ := h
  exact isFinite_mk (isBelow_channelOfByte hred).isFinite (isBelow_channelOfByte hgreen).isFinite
    (isBelow_channelOfByte hblue).isFinite (isBelow_channelOfByte halpha).isFinite

theorem isFinite_fallback : fallback.IsFinite := by
  have hzero : (0 : Binary64).isFinite = true :=
    (IsBelow.ofNat (k := 0) (by decide) (by decide)).isFinite
  exact isFinite_mk hzero hzero hzero hzero

end Rgba

/-! ### Arguments -/

namespace Argument

variable {v : Variant} {arguments : List Argument} {color : Rgba}

theorem isFinite_of_spellsChannels {a b c : Nat} {red green blue : Binary64} (ha : a < 256)
    (hb : b < 256) (hc : c < 256) (h : SpellsChannels a b c v (red, green, blue)) :
    red.isFinite = true ∧ green.isFinite = true ∧ blue.isFinite = true := by
  have hbelow : ∃ k, ColorSpace.AllBelow k (red, green, blue) := by
    generalize hchannels : (red, green, blue) = channels at h
    cases h with
    | rgb =>
      exact ⟨10, Rgba.isBelow_channelOfByte ha, Rgba.isBelow_channelOfByte hb,
        Rgba.isBelow_channelOfByte hc⟩
    | hsl =>
      exact ⟨55, ColorSpace.allBelow_rgbOfHsl (Rgba.isBelow_byte ha) (Rgba.isBelow_byte hb)
        (Rgba.isBelow_byte hc)⟩
    | hsb =>
      exact ⟨42, ColorSpace.allBelow_rgbOfHsb (Rgba.isBelow_byte ha) (Rgba.isBelow_byte hb)
        (Rgba.isBelow_byte hc)⟩
  obtain ⟨k, hred, hgreen, hblue⟩ := hbelow
  exact ⟨hred.isFinite, hgreen.isFinite, hblue.isFinite⟩

theorem isFinite_of_spellsAlpha {rest : List Expr} {alpha : Binary64}
    (h : SpellsAlpha v rest alpha) : alpha.isFinite = true := by
  cases h with
  | absent => exact (IsBelow.ofNat (k := 1) (by decide) (by decide)).isFinite
  | given _ he => exact Binary64.isFinite_of_le (by decide) he.2.1 he.2.2

/-- The channels of a color that arguments spell are finite. -/
theorem isFinite_of_spells (h : Spells arguments color) : color.IsFinite := by
  obtain ⟨v, -, hspells⟩ := h
  generalize arguments.map expr = exprs at hspells
  cases hspells with
  | hex _ hdecode => exact (Hex.isOfBytes_of_decode hdecode).isFinite
  | channels hfirst hsecond hthird hchannels halpha =>
    obtain ⟨hred, hgreen, hblue⟩ := isFinite_of_spellsChannels (Nat.lt_succ_of_le hfirst.2)
      (Nat.lt_succ_of_le hsecond.2) (Nat.lt_succ_of_le hthird.2) hchannels
    exact Rgba.isFinite_mk hred hgreen hblue (isFinite_of_spellsAlpha halpha)

end Argument

end ColorLiteral
