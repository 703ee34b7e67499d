import ColorLiteral.Color.Exact
import Mathlib.Algebra.Order.Floor.Ring
import Mathlib.Data.Rat.Floor
import Mathlib.Tactic.Linarith
import Mathlib.Tactic.Ring

/-!
# The circle of hues

Over the rational numbers the remainder of a division that truncates leaves the fractional part of
the quotient, with the sign of the dividend. The turn that is added to a negative one corrects just
that, so a wrapped hue is the fractional part of the turns of the hue (`wrapHue_eq`). It gives the
hue a place on a circle of six sectors, and two hues have the same place exactly if they are whole
turns apart (`place_eq_place_iff`).
-/

namespace ColorLiteral

/-! ### Exact operations -/

namespace ExactScalar

theorem num_eq (n : ℕ) : (ColorScalar.num n : ℚ) = n := rfl

theorem rem_eq (x y : ℚ) : ColorScalar.rem x y = rem x y := rfl

theorem less_eq (x y : ℚ) : ColorScalar.less x y = decide (x < y) := rfl

theorem abs_eq (x : ℚ) : ColorScalar.abs x = |x| := by
  rcases lt_or_ge x 0 with hneg | hpos
  · exact (if_pos hneg).trans (abs_of_neg hneg).symm
  · exact (if_neg hpos.not_gt).trans (abs_of_nonneg hpos).symm

theorem truncate_neg (q : ℚ) : truncate (-q) = -truncate q := by
  unfold truncate
  rcases lt_trichotomy q 0 with hneg | rfl | hpos
  · rw [if_pos (by linarith), if_neg hneg.not_ge, Rat.ceil_eq_neg_floor_neg, neg_neg]
  · rfl
  · rw [if_neg (by linarith), if_pos hpos.le, Rat.ceil_eq_neg_floor_neg, neg_neg]

/-- The remainder has the sign of the dividend. -/
theorem rem_neg (x y : ℚ) : rem (-x) y = -rem x y := by
  unfold rem
  rw [neg_div, truncate_neg]
  push_cast
  ring

variable {x y : ℚ}

/-- Without a sign the remainder is what the whole part of the quotient leaves. -/
theorem rem_of_nonneg (hx : 0 ≤ x) (hy : 0 < y) : rem x y = Int.fract (x / y) * y := by
  have hwhole : truncate (x / y) = ⌊x / y⌋ := if_pos (div_nonneg hx hy.le)
  rw [rem, hwhole, Int.fract, sub_mul, div_mul_cancel₀ x hy.ne']

theorem rem_nonneg (hx : 0 ≤ x) (hy : 0 < y) : 0 ≤ rem x y := by
  rw [rem_of_nonneg hx hy]
  exact mul_nonneg (Int.fract_nonneg _) hy.le

theorem rem_lt (hx : 0 ≤ x) (hy : 0 < y) : rem x y < y := by
  rw [rem_of_nonneg hx hy]
  exact mul_lt_of_lt_one_left hy (Int.fract_lt_one _)

end ExactScalar

/-! ### Wrapped hues -/

namespace ColorSpace

open ExactScalar

/-- A wrapped hue is the fractional part of the turns of the hue, in degrees. -/
theorem wrapHue_eq (hue : ℚ) : wrapHue hue = Int.fract (hue / 360) * 360 := by
  have hturn : (0 : ℚ) < 360 := by norm_num
  have hwrap : wrapHue hue = if rem hue 360 < 0 then rem hue 360 + 360 else rem hue 360 := by
    simp only [wrapHue, num_eq, rem_eq, less_eq, decide_eq_true_eq, Nat.cast_ofNat, Nat.cast_zero]
  rw [hwrap]
  rcases le_or_gt 0 hue with hpos | hneg
  · rw [if_neg (rem_nonneg hpos hturn).not_gt, rem_of_nonneg hpos hturn]
  · -- a negative hue leaves a negative remainder, unless it is a number of whole turns
    obtain ⟨x, rfl⟩ : ∃ x, hue = -x := ⟨-hue, (neg_neg hue).symm⟩
    have hx : 0 ≤ x := by linarith
    rw [rem_neg, rem_of_nonneg hx hturn, neg_div]
    by_cases hwhole : Int.fract (x / 360) = 0
    · rw [Int.fract_neg_eq_zero.2 hwhole, hwhole]
      norm_num
    · have hpart : 0 < Int.fract (x / 360) := (Int.fract_nonneg _).lt_of_ne' hwhole
      rw [if_pos (by linarith), Int.fract_neg hwhole]
      ring

/-- The place of a hue on the circle, in sectors of 60 degrees. -/
def place (hue : ℚ) : ℚ := wrapHue hue / 60

theorem place_eq (hue : ℚ) : place hue = Int.fract (hue / 360) * 6 := by
  rw [place, wrapHue_eq]
  ring

theorem place_nonneg (hue : ℚ) : 0 ≤ place hue := by
  rw [place_eq]
  exact mul_nonneg (Int.fract_nonneg _) (by norm_num)

theorem place_lt (hue : ℚ) : place hue < 6 := by
  rw [place_eq]
  exact mul_lt_of_lt_one_left (by norm_num) (Int.fract_lt_one _)

/-- Two hues have the same place exactly if they are whole turns apart. -/
theorem place_eq_place_iff {hue hue' : ℚ} :
    place hue = place hue' ↔ ∃ k : ℤ, hue = hue' + 360 * k := by
  rw [place_eq, place_eq, mul_left_inj' (by norm_num), Int.fract_eq_fract]
  refine exists_congr fun k => ?_
  rw [← sub_div, div_eq_iff (by norm_num), sub_eq_iff_eq_add', mul_comm]

end ColorSpace

end ColorLiteral
