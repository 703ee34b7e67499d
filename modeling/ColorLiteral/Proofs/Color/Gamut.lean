import ColorLiteral.Proofs.Color.Tint
import Mathlib.Order.Interval.Set.Defs

/-!
# The gamut

The middle channel of a tint has a share of the chroma between nothing and all of it
(`middle_mem`). So the greatest channel of a tint is its chroma on top of its gray, and the least
one is the gray alone (`extremes_tint`). Percentages from 0 to 100 keep both between zero and one,
and with them all channels of a converted color (`rgb_of_percentages`).
-/

namespace ColorLiteral.ColorSpace

open ExactScalar

/-! ### The extreme channels -/

/-- The channels of a color. -/
def channels (rgb : ℚ × ℚ × ℚ) : List ℚ := [rgb.1, rgb.2.1, rgb.2.2]

/-- The greatest channel of a color. -/
def largest (rgb : ℚ × ℚ × ℚ) : ℚ := max rgb.1 (max rgb.2.1 rgb.2.2)

/-- The least channel of a color. -/
def smallest (rgb : ℚ × ℚ × ℚ) : ℚ := min rgb.1 (min rgb.2.1 rgb.2.2)

/-- Every channel of a color lies between zero and one. -/
def InUnit (rgb : ℚ × ℚ × ℚ) : Prop := ∀ x ∈ channels rgb, 0 ≤ x ∧ x ≤ 1

theorem inUnit_iff {rgb : ℚ × ℚ × ℚ} : InUnit rgb ↔ 0 ≤ smallest rgb ∧ largest rgb ≤ 1 := by
  simp only [InUnit, channels, smallest, largest, List.forall_mem_cons, le_min_iff, max_le_iff]
  tauto

/-! ### Tints -/

variable {h c m : ℚ}

theorem middle_mem (hh : 0 ≤ h) : middle h ∈ Set.Icc 0 1 := by
  have hlow : 0 ≤ rem h 2 := rem_nonneg hh (by norm_num)
  have hhigh : rem h 2 < 2 := rem_lt hh (by norm_num)
  have hdistance : |rem h 2 - 1| ≤ 1 := abs_le.2 ⟨by linarith, by linarith⟩
  exact ⟨sub_nonneg.2 hdistance, sub_le_self 1 (abs_nonneg _)⟩

/-- The channels of a tint range from the gray to the chroma on top of it. -/
theorem extremes_tint (hh : 0 ≤ h) (hc : 0 ≤ c) :
    largest (tint h c m) = c + m ∧ smallest (tint h c m) = m := by
  obtain ⟨hlow, hhigh⟩ := middle_mem hh
  have hgray : m ≤ c * middle h + m := le_add_of_nonneg_left (mul_nonneg hc hlow)
  have hfull : c * middle h + m ≤ c + m := add_le_add_left (mul_le_of_le_one_right hc hhigh) m
  have hends : m ≤ c + m := hgray.trans hfull
  rw [tint, shifted_eq, largest, smallest]
  split_ifs <;> simp [hgray, hfull, hends]

/-! ### Percentages -/

variable {s l b : ℚ}

theorem percent_mem (hs : s ∈ Set.Icc 0 100) : s / 100 ∈ Set.Icc 0 1 := by
  obtain ⟨hlow, hhigh⟩ := hs
  exact ⟨by linarith, by linarith⟩

/-- The chroma of a saturation and a lightness leaves room on both sides of the lightness. -/
theorem chroma_bounds (hs : s ∈ Set.Icc 0 100) (hl : l ∈ Set.Icc 0 100) :
    0 ≤ chroma s l ∧ chroma s l / 2 ≤ l / 100 ∧ l / 100 + chroma s l / 2 ≤ 1 := by
  obtain ⟨hslow, hshigh⟩ := percent_mem hs
  obtain ⟨hllow, hlhigh⟩ := percent_mem hl
  have hroom : 0 ≤ 1 - |2 * (l / 100) - 1| :=
    sub_nonneg.2 (abs_le.2 ⟨by linarith, by linarith⟩)
  have hchroma : chroma s l ≤ 1 - |2 * (l / 100) - 1| := mul_le_of_le_one_right hroom hshigh
  have habove := le_abs_self (2 * (l / 100) - 1)
  have hbelow := neg_abs_le (2 * (l / 100) - 1)
  exact ⟨mul_nonneg hroom hslow, by linarith, by linarith⟩

theorem extremes_rgbOfHsl (hue : ℚ) (hs : s ∈ Set.Icc 0 100) (hl : l ∈ Set.Icc 0 100) :
    largest (rgbOfHsl hue s l) = l / 100 + chroma s l / 2 ∧
    smallest (rgbOfHsl hue s l) = l / 100 - chroma s l / 2 := by
  obtain ⟨hlargest, hsmallest⟩ := extremes_tint (m := l / 100 - chroma s l / 2)
    (place_nonneg hue) (chroma_bounds hs hl).1
  rw [rgbOfHsl_eq_tint, hlargest, hsmallest]
  exact ⟨by ring, rfl⟩

theorem extremes_rgbOfHsb (hue : ℚ) (hs : s ∈ Set.Icc 0 100) (hb : b ∈ Set.Icc 0 100) :
    largest (rgbOfHsb hue s b) = b / 100 ∧
    smallest (rgbOfHsb hue s b) = b / 100 * (1 - s / 100) := by
  have hchroma : 0 ≤ b / 100 * (s / 100) := mul_nonneg (percent_mem hb).1 (percent_mem hs).1
  obtain ⟨hlargest, hsmallest⟩ := extremes_tint (m := b / 100 - b / 100 * (s / 100))
    (place_nonneg hue) hchroma
  rw [rgbOfHsb_eq_tint, hlargest, hsmallest]
  exact ⟨by ring, by ring⟩

/-- Percentages from 0 to 100 give colors in the gamut. The lightness is halfway between the least
and the greatest channel, which are the chroma apart. The brightness is the greatest channel, and
the saturation is what the least one lacks of it. -/
theorem rgb_of_percentages (hue : ℚ) (hs : s ∈ Set.Icc 0 100) (hl : l ∈ Set.Icc 0 100)
    (hb : b ∈ Set.Icc 0 100) :
    (InUnit (rgbOfHsl hue s l) ∧
      largest (rgbOfHsl hue s l) = l / 100 + chroma s l / 2 ∧
      smallest (rgbOfHsl hue s l) = l / 100 - chroma s l / 2 ∧
      (largest (rgbOfHsl hue s l) + smallest (rgbOfHsl hue s l)) / 2 = l / 100) ∧
    (InUnit (rgbOfHsb hue s b) ∧
      largest (rgbOfHsb hue s b) = b / 100 ∧
      smallest (rgbOfHsb hue s b) = b / 100 * (1 - s / 100)) := by
  obtain ⟨-, hroom, hceiling⟩ := chroma_bounds hs hl
  obtain ⟨hlargest, hsmallest⟩ := extremes_rgbOfHsl hue hs hl
  obtain ⟨hlargest', hsmallest'⟩ := extremes_rgbOfHsb hue hs hb
  obtain ⟨hblow, hbhigh⟩ := percent_mem hb
  have hpale : 0 ≤ 1 - s / 100 := sub_nonneg.2 (percent_mem hs).2
  rw [inUnit_iff, inUnit_iff, hlargest, hsmallest, hlargest', hsmallest']
  exact ⟨⟨⟨sub_nonneg.2 hroom, hceiling⟩, rfl, rfl, by ring⟩,
    ⟨mul_nonneg hblow hpale, hbhigh⟩, rfl, rfl⟩

/-- A hue of more than two turns backwards. -/
theorem rgb_of_percentages_negative : (50 : ℚ) ∈ Set.Icc 0 100 ∧ (25 : ℚ) ∈ Set.Icc 0 100 ∧
    (80 : ℚ) ∈ Set.Icc 0 100 ∧
    (InUnit (rgbOfHsl (-750) 50 25) ∧ largest (rgbOfHsl (-750) 50 25) = 3 / 8 ∧
      smallest (rgbOfHsl (-750) 50 25) = 1 / 8) ∧
    (InUnit (rgbOfHsb (-750) 50 80) ∧ largest (rgbOfHsb (-750) 50 80) = 4 / 5 ∧
      smallest (rgbOfHsb (-750) 50 80) = 2 / 5) := by
  have hs : (50 : ℚ) ∈ Set.Icc 0 100 := by norm_num
  have hl : (25 : ℚ) ∈ Set.Icc 0 100 := by norm_num
  have hb : (80 : ℚ) ∈ Set.Icc 0 100 := by norm_num
  obtain ⟨⟨hunit, hlargest, hsmallest, -⟩, hunit', hlargest', hsmallest'⟩ :=
    rgb_of_percentages (-750) hs hl hb
  have hchroma : chroma 50 25 = 1 / 4 := by norm_num [chroma]
  rw [hchroma] at hlargest hsmallest
  norm_num at hlargest hsmallest hlargest' hsmallest'
  exact ⟨hs, hl, hb, ⟨hunit, hlargest, hsmallest⟩, hunit', hlargest', hsmallest'⟩

end ColorLiteral.ColorSpace
