import ColorLiteral.Binary64.Basic
import Mathlib.Tactic.Ring

/-!
# How far rounding is off

Rounding to a whole number is off by half at most (`roundHalfEven_bounds`), and a number that is
nearer to a whole number than half is rounded to it (`roundHalfEven_eq`). Rounding to 53 significant
bits is off by one part in `2 ^ 53` of the number at most (`roundUnits_bounds`), and a count that
fits into 53 bits stays as it is (`roundUnits_eq_self`), so that the whole numbers up to `2 ^ 53` are
exact (`Binary64.ofNat_eq`).
-/

namespace ColorLiteral

variable {num den n k : Nat}

/-! ### Whole numbers -/

theorem roundHalfEven_bounds (num : Nat) (hden : 0 < den) :
    2 * (roundHalfEven num den * den) ≤ 2 * num + den ∧
      2 * num ≤ 2 * (roundHalfEven num den * den) + den := by
  have hdiv : num / den * den + num % den = num := Nat.div_add_mod' num den
  have hmod := Nat.mod_lt num hden
  unfold roundHalfEven
  dsimp only
  split
  · rw [Nat.add_mul, Nat.one_mul]
    omega
  · omega

theorem roundHalfEven_eq (hlow : 2 * (k * den) < 2 * num + den)
    (hhigh : 2 * num < 2 * (k * den) + den) : roundHalfEven num den = k := by
  have hden : 0 < den := by omega
  obtain ⟨hle, hge⟩ := roundHalfEven_bounds num hden
  have hupper : roundHalfEven num den * den < (k + 1) * den := by
    rw [Nat.add_mul, Nat.one_mul]
    omega
  have hlower : k * den < (roundHalfEven num den + 1) * den := by
    rw [Nat.add_mul, Nat.one_mul]
    omega
  have := Nat.lt_of_mul_lt_mul_right hupper
  have := Nat.lt_of_mul_lt_mul_right hlower
  omega

theorem roundHalfEven_mul (k : Nat) (hden : 0 < den) : roundHalfEven (k * den) den = k :=
  roundHalfEven_eq (by omega) (by omega)

/-! ### Significant bits -/

theorem gridStep_pos (n : Nat) : 0 < gridStep n := Nat.two_pow_pos _

/-- A count that fills its bits is large against the distance to its neighbours. -/
theorem gridStep_mul_le (h : 2 ^ 52 ≤ n) : gridStep n * 2 ^ 52 ≤ n := by
  have hne : n ≠ 0 := by omega
  have hlog : 52 ≤ n.log2 := (Nat.le_log2 hne).2 h
  show 2 ^ (n.log2 - 52) * 2 ^ 52 ≤ n
  rw [← Nat.pow_add, Nat.sub_add_cancel hlog]
  exact Nat.log2_self_le hne

/-- Rounding to 53 significant bits is off by one part in `2 ^ 53` at most. -/
theorem roundUnits_bounds (hden : 0 < den) (h : 2 ^ 52 * den ≤ num) :
    2 ^ 53 * (roundUnits num den * den) ≤ (2 ^ 53 + 1) * num ∧
      (2 ^ 53 - 1) * num ≤ 2 ^ 53 * (roundUnits num den * den) := by
  have hstep := gridStep_mul_le ((Nat.le_div_iff_mul_le hden).2 h)
  have hden' : 0 < den * gridStep (num / den) := Nat.mul_pos hden (gridStep_pos _)
  obtain ⟨hle, hge⟩ := roundHalfEven_bounds num hden'
  have hsmall : den * gridStep (num / den) * 2 ^ 52 ≤ num :=
    calc den * gridStep (num / den) * 2 ^ 52 = den * (gridStep (num / den) * 2 ^ 52) := by ring
      _ ≤ den * (num / den) := Nat.mul_le_mul_left den hstep
      _ ≤ num := Nat.mul_div_le num den
  have hunits : roundUnits num den * den =
      roundHalfEven num (den * gridStep (num / den)) * (den * gridStep (num / den)) := by
    rw [roundUnits]
    ring
  rw [hunits]
  omega

theorem gridStep_dvd (h : FitsSignificand n) : gridStep n ∣ n := by
  obtain ⟨m, k, hm, rfl⟩ := h
  by_cases hzero : m * Nat.pow 2 k = 0
  · rw [hzero]
    exact Nat.dvd_zero _
  · have hlt : m * Nat.pow 2 k < 2 ^ (53 + k) := by
      rw [Nat.pow_add]
      exact Nat.mul_lt_mul_of_pos_right hm (Nat.two_pow_pos k)
    have hlog := (Nat.log2_lt hzero).2 hlt
    have hstep : gridStep (m * Nat.pow 2 k) ∣ Nat.pow 2 k := Nat.pow_dvd_pow 2 (by omega)
    exact Nat.dvd_trans hstep (Nat.dvd_mul_left _ _)

/-- A count that fits into 53 significant bits is not changed. -/
theorem roundUnits_eq_self (h : FitsSignificand n) : roundUnits n 1 = n := by
  obtain ⟨k, hk⟩ := gridStep_dvd h
  rw [roundUnits, Nat.div_one, Nat.one_mul]
  have hround : roundHalfEven n (gridStep n) = k := by
    conv => lhs; arg 1; rw [hk, Nat.mul_comm]
    exact roundHalfEven_mul k (gridStep_pos n)
  rw [hround, Nat.mul_comm, ← hk]

/-! ### Numbers -/

theorem unitsPerOne_pos : 0 < unitsPerOne := by decide +kernel

namespace Binary64

theorem round_of_lt (negative : Bool) (h : roundUnits num den < unitLimit) :
    round negative num den =
      .finite negative ⟨roundUnits num den, fitsSignificand_roundUnits num den, h⟩ := by
  rw [round, dif_pos h]

theorem fitsSignificand_whole (h : n < 2 ^ 53) : FitsSignificand (n * unitsPerOne) :=
  ⟨n, 1074, h, by unfold unitsPerOne; rfl⟩

theorem whole_lt_unitLimit (h : n < 2 ^ 53) : n * unitsPerOne < unitLimit := by
  have hlimit : 2 ^ 53 * unitsPerOne ≤ unitLimit := by decide +kernel
  have hpos : 0 < unitsPerOne := by decide +kernel
  exact Nat.lt_of_lt_of_le (Nat.mul_lt_mul_of_pos_right h hpos) hlimit

/-- Small whole numbers are exact. -/
theorem ofNat_eq (h : n < 2 ^ 53) :
    ofNat n =
      .finite false ⟨n * unitsPerOne, fitsSignificand_whole h, whole_lt_unitLimit h⟩ := by
  have hunits := roundUnits_eq_self (fitsSignificand_whole h)
  rw [ofNat, round_of_lt false (by rw [hunits]; exact whole_lt_unitLimit h)]
  congr 2

theorem ofNat_lt_finite_iff (h : n < 2 ^ 53) (m : Magnitude) :
    ofNat n < .finite false m ↔ n * unitsPerOne < m.units := by
  rw [ofNat_eq h]
  show less _ _ = true ↔ _
  simp only [less, signedUnits, Bool.false_eq_true, if_false, decide_eq_true_eq, Int.ofNat_lt]

theorem finite_lt_ofNat_iff (h : n < 2 ^ 53) (m : Magnitude) :
    .finite false m < ofNat n ↔ m.units < n * unitsPerOne := by
  rw [ofNat_eq h]
  show less _ _ = true ↔ _
  simp only [less, signedUnits, Bool.false_eq_true, if_false, decide_eq_true_eq, Int.ofNat_lt]

theorem ofNat_div_ofNat (hn : n < 2 ^ 53) (hk : k < 2 ^ 53) (hpos : 0 < k) :
    ofNat n / ofNat k = round false (n * unitsPerOne * unitsPerOne) (k * unitsPerOne) := by
  have hunits : k * unitsPerOne ≠ 0 := Nat.mul_ne_zero (by omega) (by decide +kernel)
  rw [ofNat_eq hn, ofNat_eq hk]
  show div _ _ = _
  simp only [div, if_neg hunits, bne_self_eq_false]

theorem finite_mul_ofNat (m : Magnitude) (hk : k < 2 ^ 53) :
    .finite false m * ofNat k = round false (m.units * (k * unitsPerOne)) unitsPerOne := by
  rw [ofNat_eq hk]
  show mul _ _ = _
  simp only [mul, bne_self_eq_false]

end Binary64

end ColorLiteral
