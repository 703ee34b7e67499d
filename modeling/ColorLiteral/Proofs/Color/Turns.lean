import ColorLiteral.Proofs.Color.Tint

/-!
# Turns of the hue

The conversions use a hue only for its place on the circle, so whole turns in either direction
change no color. Anything else does: the place can be told from a pure color, one with full chroma
and no gray (`placeOf_tint`), so that pure colors are the same exactly if their hues are whole turns
apart (`rgb_add_turns`).
-/

namespace ColorLiteral.ColorSpace

open ExactScalar

/-! ### The middle channel -/

variable {h : ℚ}

theorem middle_eq (n : ℕ) (hlow : 2 * n ≤ h) (hhigh : h < 2 * n + 2) :
    middle h = 1 - |h - 2 * n - 1| := by
  have hn : (0 : ℚ) ≤ n := n.cast_nonneg
  have hwhole : ⌊h / 2⌋ = (n : ℤ) :=
    Int.floor_eq_iff.2 ⟨by push_cast; linarith, by push_cast; linarith⟩
  have hrem : rem h 2 = h - 2 * n := by
    rw [rem_of_nonneg (by linarith) (by norm_num), Int.fract, hwhole]
    push_cast
    ring
  rw [middle, hrem]

/-- The middle channel rises in the sectors with an even number. -/
theorem middle_rising (n : ℕ) (hlow : 2 * n ≤ h) (hhigh : h < 2 * n + 1) :
    middle h = h - 2 * n := by
  rw [middle_eq n hlow (by linarith), abs_of_nonpos (by linarith)]
  ring

/-- It falls in those with an odd number. -/
theorem middle_falling (n : ℕ) (hlow : 2 * n + 1 ≤ h) (hhigh : h < 2 * n + 2) :
    middle h = 2 * n + 2 - h := by
  rw [middle_eq n (by linarith) hhigh, abs_of_nonneg (by linarith)]
  ring

/-! ### Pure colors -/

/-- The place of a pure color on the circle. -/
def placeOf : ℚ × ℚ × ℚ → ℚ
  | (red, green, blue) =>
    if blue = 0 then if red = 1 then green else 2 - red
    else if red = 0 then if green = 1 then 2 + blue else 4 - green
    else if blue = 1 then 4 + red else 6 - blue

/-- A pure color shows its place on the circle. -/
theorem placeOf_tint (hlow : 0 ≤ h) (hhigh : h < 6) : placeOf (tint h 1 0) = h := by
  rw [tint, shifted_eq]
  simp only [one_mul, add_zero]
  -- one case for each sector; the middle channel has a formula of its own there
  split_ifs with h1 h2 h3 h4 h5
  · rw [middle_rising 0 (by norm_num; linarith) (by norm_num; linarith)]
    grind [placeOf]
  · rw [middle_falling 0 (by norm_num; linarith) (by norm_num; linarith)]
    grind [placeOf]
  · rw [middle_rising 1 (by norm_num; linarith) (by norm_num; linarith)]
    grind [placeOf]
  · rw [middle_falling 1 (by norm_num; linarith) (by norm_num; linarith)]
    grind [placeOf]
  · rw [middle_rising 2 (by norm_num; linarith) (by norm_num; linarith)]
    grind [placeOf]
  · rw [middle_falling 2 (by norm_num; linarith) (by norm_num; linarith)]
    grind [placeOf]

/-- Two pure colors are the same exactly if their hues are whole turns apart. -/
theorem tint_place_eq_iff {hue hue' : ℚ} :
    tint (place hue) 1 0 = tint (place hue') 1 0 ↔ ∃ k : ℤ, hue = hue' + 360 * k := by
  rw [← place_eq_place_iff]
  constructor
  · intro heq
    rw [← placeOf_tint (place_nonneg hue) (place_lt hue), heq,
      placeOf_tint (place_nonneg hue') (place_lt hue')]
  · intro heq
    rw [heq]

/-! ### Turns -/

theorem rgbOfHsl_pure (hue : ℚ) : rgbOfHsl hue 100 50 = tint (place hue) 1 0 := by
  rw [rgbOfHsl_eq_tint]
  norm_num [chroma]

theorem rgbOfHsb_pure (hue : ℚ) : rgbOfHsb hue 100 100 = tint (place hue) 1 0 := by
  rw [rgbOfHsb_eq_tint]
  norm_num

/-- Whole turns of the hue, forward or backward, change no color. Every other change of the hue
changes the pure colors. -/
theorem rgb_add_turns :
    (∀ (hue a b : ℚ) (k : ℤ), rgbOfHsl (hue + 360 * k) a b = rgbOfHsl hue a b ∧
      rgbOfHsb (hue + 360 * k) a b = rgbOfHsb hue a b) ∧
    ∀ hue hue' : ℚ,
      (rgbOfHsl hue 100 50 = rgbOfHsl hue' 100 50 ↔ ∃ k : ℤ, hue = hue' + 360 * k) ∧
      (rgbOfHsb hue 100 100 = rgbOfHsb hue' 100 100 ↔ ∃ k : ℤ, hue = hue' + 360 * k) := by
  refine ⟨fun hue a b k => ?_, fun hue hue' => ?_⟩
  · have hplace : place (hue + 360 * k) = place hue := place_eq_place_iff.2 ⟨k, rfl⟩
    rw [rgbOfHsl_eq_tint, rgbOfHsb_eq_tint, hplace, rgbOfHsl_eq_tint, rgbOfHsb_eq_tint]
    exact ⟨rfl, rfl⟩
  · rw [rgbOfHsl_pure, rgbOfHsl_pure, rgbOfHsb_pure, rgbOfHsb_pure]
    exact ⟨tint_place_eq_iff, tint_place_eq_iff⟩

end ColorLiteral.ColorSpace
