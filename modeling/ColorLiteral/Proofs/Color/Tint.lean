import ColorLiteral.Proofs.Color.Hue
import Mathlib.Tactic.FieldSimp

/-!
# Tints

Both conversions give a tint: in a sector of the circle of hues one channel gets a chroma, one gets
a share of it and one gets nothing, and all three stand on the same gray. The conversions place the
hue alike, although they scale it differently, so what matters is the chroma and the gray
(`rgbOfHsl_eq_tint`, `rgbOfHsb_eq_tint`). These are determined by the color (`tint_eq_tint_iff`), and
comparing them leads from a saturation and a lightness to the saturation and the brightness of the
same color (`rgbOfHsl_eq_rgbOfHsb`).
-/

namespace ColorLiteral.ColorSpace

open ExactScalar

/-! ### Tints -/

/-- The share of the chroma that the middle channel has at a place on the circle, in sectors. -/
def middle (h : ℚ) : ℚ := 1 - |rem h 2 - 1|

/-- The color with a chroma at a place on the circle, on top of a gray. -/
def tint (h c m : ℚ) : ℚ × ℚ × ℚ := shifted h c (c * middle h) m

variable {h c m c' m' : ℚ}

theorem shifted_eq (h c x m : ℚ) : shifted h c x m =
    if h < 1 then (c + m, x + m, m)
    else if h < 2 then (x + m, c + m, m)
    else if h < 3 then (m, c + m, x + m)
    else if h < 4 then (m, x + m, c + m)
    else if h < 5 then (x + m, m, c + m)
    else (c + m, m, x + m) := by
  unfold shifted sectorChannels
  simp only [num_eq, less_eq, decide_eq_true_eq, Nat.cast_ofNat, Nat.cast_one, Nat.cast_zero]
  split_ifs <;> simp only [zero_add]

/-- At every place on the circle a color determines its chroma and its gray. -/
theorem tint_eq_tint_iff : tint h c m = tint h c' m' ↔ c = c' ∧ m = m' := by
  constructor
  · intro heq
    rw [tint, tint, shifted_eq, shifted_eq] at heq
    have hchannels : c + m = c' + m' ∧ m = m' := by
      split_ifs at heq <;> simp only [Prod.mk.injEq] at heq <;> tauto
    obtain ⟨hsum, rfl⟩ := hchannels
    exact ⟨add_right_cancel hsum, rfl⟩
  · rintro ⟨rfl, rfl⟩
    rfl

/-! ### The conversions -/

/-- The chroma of a saturation and a lightness in percent. -/
def chroma (saturation lightness : ℚ) : ℚ := (1 - |2 * (lightness / 100) - 1|) * (saturation / 100)

theorem rgbOfHsl_eq_tint (hue s l : ℚ) :
    rgbOfHsl hue s l = tint (place hue) (chroma s l) (l / 100 - chroma s l / 2) := by
  have hplace : wrapHue hue / 360 * 6 = place hue := by
    rw [place]
    ring
  simp only [rgbOfHsl, num_eq, rem_eq, abs_eq, Nat.cast_ofNat, Nat.cast_one, hplace]
  rfl

theorem rgbOfHsb_eq_tint (hue s b : ℚ) : rgbOfHsb hue s b =
    tint (place hue) (b / 100 * (s / 100)) (b / 100 - b / 100 * (s / 100)) := by
  simp only [rgbOfHsb, num_eq, rem_eq, abs_eq, Nat.cast_ofNat, Nat.cast_one]
  rfl

/-! ### One color in both spaces -/

/-- The brightness of a saturation and a lightness in percent, on the scale from zero to one. -/
def brightness (saturation lightness : ℚ) : ℚ :=
  lightness / 100 + saturation / 100 * (1 - |2 * (lightness / 100) - 1|) / 2

theorem brightness_eq (s l : ℚ) : brightness s l = l / 100 + chroma s l / 2 := by
  rw [brightness, chroma, mul_comm (s / 100)]

/-- Two colors of one hue are the same exactly if the brightness and the saturation agree. -/
theorem rgbOfHsl_eq_rgbOfHsb_iff {hue s l s' b : ℚ} (hbright : brightness s l ≠ 0) :
    rgbOfHsl hue s l = rgbOfHsb hue s' b ↔
      s' = 100 * 2 * (1 - l / 100 / brightness s l) ∧ b = 100 * brightness s l := by
  rw [rgbOfHsl_eq_tint, rgbOfHsb_eq_tint, tint_eq_tint_iff]
  have hchroma : chroma s l = 2 * (brightness s l - l / 100) := by
    rw [brightness_eq]
    ring
  generalize brightness s l = v at hbright hchroma
  rw [hchroma]
  constructor
  · rintro ⟨hc, hm⟩
    have hv : b = 100 * v := by linarith
    refine ⟨?_, hv⟩
    rw [hv] at hc
    field_simp at hc ⊢
    linarith
  · rintro ⟨rfl, rfl⟩
    constructor
    · field_simp
    · field_simp
      ring

/-- A saturation and a lightness give the color of just one saturation and brightness, unless the
brightness is zero. No hue and no percentage is out of range. -/
theorem rgbOfHsl_eq_rgbOfHsb (hue : ℚ) {s l : ℚ} (hbright : brightness s l ≠ 0) :
    rgbOfHsl hue s l =
      rgbOfHsb hue (100 * 2 * (1 - l / 100 / brightness s l)) (100 * brightness s l) ∧
    ∀ s' b, rgbOfHsl hue s l = rgbOfHsb hue s' b →
      s' = 100 * 2 * (1 - l / 100 / brightness s l) ∧ b = 100 * brightness s l :=
  ⟨(rgbOfHsl_eq_rgbOfHsb_iff hbright).2 ⟨rfl, rfl⟩, fun _ _ => (rgbOfHsl_eq_rgbOfHsb_iff hbright).1⟩

/-- A negative hue and a saturation beyond 100 percent. -/
theorem rgbOfHsl_eq_rgbOfHsb_outside : brightness 150 50 ≠ 0 ∧
    rgbOfHsl (-30 : ℚ) 150 50 = rgbOfHsb (-30) 120 125 ∧
    ∀ s' b : ℚ, rgbOfHsl (-30) 150 50 = rgbOfHsb (-30) s' b → s' = 120 ∧ b = 125 := by
  have hvalue : brightness 150 50 = 5 / 4 := by norm_num [brightness]
  have hbright : brightness 150 50 ≠ 0 := by rw [hvalue]; norm_num
  have hboth := rgbOfHsl_eq_rgbOfHsb (-30) hbright
  rw [hvalue] at hboth
  norm_num at hboth
  exact ⟨hbright, hboth⟩

end ColorLiteral.ColorSpace
