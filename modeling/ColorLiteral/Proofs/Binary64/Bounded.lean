import ColorLiteral.Proofs.Binary64.Rounding

/-!
# Bounds through arithmetic

Rounding at most doubles a quotient (`roundUnits_lt`), so a number below a power of two stays below
a greater one through every operation, far from infinity as long as the exponents add up to little
(`Binary64.IsBelow`). The bounds are loose: what counts is that they exist, since a number with a
bound is finite.
-/

namespace ColorLiteral

variable {num den n j k : Nat}

theorem gridStep_le (hn : 0 < n) : gridStep n ≤ n := by
  have hlog : 2 ^ n.log2 ≤ n := Nat.log2_self_le (Nat.pos_iff_ne_zero.1 hn)
  have hstep : 2 ^ (n.log2 - 52) ≤ 2 ^ n.log2 := Nat.pow_le_pow_right (by decide) (by omega)
  exact Nat.le_trans hstep hlog

theorem gridStep_zero : gridStep 0 = 1 := by decide

theorem roundUnits_lt (h : num / den < n) : roundUnits num den < 2 * n := by
  have hround := roundHalfEven_le num (den * gridStep (num / den))
  have hgrid : num / (den * gridStep (num / den)) * gridStep (num / den) ≤ num / den := by
    rw [← Nat.div_div_eq_div_mul]
    exact Nat.div_mul_le_self _ _
  have hunits : roundUnits num den ≤ num / den + gridStep (num / den) := by
    calc roundUnits num den
        ≤ (num / (den * gridStep (num / den)) + 1) * gridStep (num / den) :=
          Nat.mul_le_mul_right _ hround
      _ ≤ num / den + gridStep (num / den) := by
          rw [Nat.add_mul, Nat.one_mul]
          exact Nat.add_le_add_right hgrid _
  rcases Nat.eq_zero_or_pos (num / den) with hzero | hpos
  · rw [hzero, gridStep_zero] at hunits
    omega
  · have hstep := gridStep_le hpos
    omega

namespace Binary64

variable {x y : Binary64}

/-- A finite number of less than `2 ^ k`, whatever its sign. -/
def IsBelow (k : Nat) (x : Binary64) : Prop :=
  ∃ s m, x = .finite s m ∧ m.units < 2 ^ k * unitsPerOne

theorem pow_mul_unitsPerOne_le (hk : k ≤ 128) : 2 ^ k * unitsPerOne ≤ unitLimit := by
  have hpow : 2 ^ k * unitsPerOne ≤ 2 ^ 128 * unitsPerOne :=
    Nat.mul_le_mul_right _ (Nat.pow_le_pow_right (by decide) hk)
  have hlimit : 2 ^ 128 * unitsPerOne ≤ unitLimit := by decide +kernel
  exact Nat.le_trans hpow hlimit

namespace IsBelow

theorem isFinite (h : IsBelow k x) : x.isFinite = true := by
  obtain ⟨s, m, rfl, -⟩ := h
  rfl

theorem mono (h : IsBelow j x) (hle : j ≤ k) : IsBelow k x := by
  obtain ⟨s, m, rfl, hm⟩ := h
  have hpow : 2 ^ j * unitsPerOne ≤ 2 ^ k * unitsPerOne :=
    Nat.mul_le_mul_right _ (Nat.pow_le_pow_right (by decide) hle)
  exact ⟨s, m, rfl, Nat.lt_of_lt_of_le hm hpow⟩

theorem round (s : Bool) (hk : k < 128) (h : num / den < 2 ^ k * unitsPerOne) :
    IsBelow (k + 1) (Binary64.round s num den) := by
  have hunits : roundUnits num den < 2 ^ (k + 1) * unitsPerOne := by
    have hdouble := roundUnits_lt h
    rwa [← Nat.mul_assoc, ← Nat.pow_succ'] at hdouble
  have hlt := Nat.lt_of_lt_of_le hunits (pow_mul_unitsPerOne_le hk)
  exact ⟨s, _, round_of_lt s hlt, hunits⟩

theorem roundInt {z : Int} (hk : k < 128) (h : z.natAbs < 2 ^ k * unitsPerOne) :
    IsBelow (k + 1) (Binary64.roundInt z) := by
  cases z with
  | ofNat units => exact round false hk (by rwa [Nat.div_one])
  | negSucc units => exact round true hk (by rwa [Nat.div_one])

theorem ofNat (hk : k < 128) (h : n < 2 ^ k) : IsBelow (k + 1) (.ofNat n) := by
  refine round false hk ?_
  rw [Nat.div_one]
  exact Nat.mul_lt_mul_of_pos_right h unitsPerOne_pos

theorem neg (h : IsBelow k x) : IsBelow k (-x) := by
  obtain ⟨s, m, rfl, hm⟩ := h
  exact ⟨!s, m, rfl, hm⟩

theorem abs (h : IsBelow k x) : IsBelow k x.abs := by
  obtain ⟨s, m, rfl, hm⟩ := h
  exact ⟨false, m, rfl, hm⟩

theorem natAbs_signedUnits (s : Bool) (m : Magnitude) : (signedUnits s m).natAbs = m.units := by
  cases s with
  | true => exact Int.natAbs_neg _
  | false => rfl

theorem add (hk : k + 1 < 128) (hx : IsBelow k x) (hy : IsBelow k y) :
    IsBelow (k + 2) (x + y) := by
  obtain ⟨s, m, rfl, hm⟩ := hx
  obtain ⟨t, n, rfl, hn⟩ := hy
  have hunits : (signedUnits s m + signedUnits t n).natAbs < 2 ^ (k + 1) * unitsPerOne := by
    have hsum := Int.natAbs_add_le (signedUnits s m) (signedUnits t n)
    rw [natAbs_signedUnits, natAbs_signedUnits] at hsum
    rw [Nat.pow_succ', Nat.mul_assoc]
    omega
  show IsBelow (k + 2) (if signedUnits s m + signedUnits t n = 0 then zero (s && t)
    else Binary64.roundInt (signedUnits s m + signedUnits t n))
  split
  · exact ⟨_, _, rfl, Nat.mul_pos (Nat.two_pow_pos _) unitsPerOne_pos⟩
  · exact roundInt hk hunits

theorem sub (hk : k + 1 < 128) (hx : IsBelow k x) (hy : IsBelow k y) :
    IsBelow (k + 2) (x - y) :=
  hx.add hk hy.neg

theorem mul (hjk : j + k < 128) (hx : IsBelow j x) (hy : IsBelow k y) :
    IsBelow (j + k + 1) (x * y) := by
  obtain ⟨s, m, rfl, hm⟩ := hx
  obtain ⟨t, n, rfl, hn⟩ := hy
  show IsBelow (j + k + 1) (Binary64.mul _ _)
  rw [Binary64.mul]
  refine round (s != t) hjk ((Nat.div_lt_iff_lt_mul unitsPerOne_pos).2 ?_)
  calc m.units * n.units < 2 ^ j * unitsPerOne * (2 ^ k * unitsPerOne) := Nat.mul_lt_mul'' hm hn
    _ = 2 ^ (j + k) * unitsPerOne * unitsPerOne := by ring

/-- A quotient by a whole number. -/
theorem div (hk : k < 128) (hx : IsBelow k x) (hpos : 0 < n) (hn : n < 2 ^ 53) :
    IsBelow (k + 1) (x / Binary64.ofNat n) := by
  obtain ⟨s, m, rfl, hm⟩ := hx
  have hunits : n * unitsPerOne ≠ 0 := Nat.ne_of_gt (Nat.mul_pos hpos unitsPerOne_pos)
  rw [ofNat_eq hn]
  show IsBelow (k + 1) (Binary64.div _ _)
  rw [Binary64.div, if_neg hunits]
  refine round _ hk (Nat.lt_of_le_of_lt ?_ hm)
  rw [Nat.mul_div_mul_right _ _ unitsPerOne_pos]
  exact Nat.div_le_self _ _

/-- A remainder by a whole number. -/
theorem rem (hk : k < 128) (hx : IsBelow k x) (hpos : 0 < n) (hn : n < 2 ^ 53) :
    IsBelow (k + 1) (x.rem (Binary64.ofNat n)) := by
  obtain ⟨s, m, rfl, hm⟩ := hx
  have hunits : n * unitsPerOne ≠ 0 := Nat.ne_of_gt (Nat.mul_pos hpos unitsPerOne_pos)
  rw [ofNat_eq hn, Binary64.rem, if_neg hunits]
  refine round _ hk (Nat.lt_of_le_of_lt ?_ hm)
  rw [Nat.div_one]
  exact Nat.mod_le _ _

end IsBelow

/-! ### Order -/

/-- A number from zero to a small whole number is finite. -/
theorem isFinite_of_le (hn : n < 2 ^ 53) (hlow : 0 ≤ x) (hhigh : x ≤ ofNat n) :
    x.isFinite = true := by
  have hlow : lessEq (ofNat 0) x = true := hlow
  have hhigh : lessEq x (ofNat n) = true := hhigh
  rw [ofNat_eq (by omega)] at hlow
  rw [ofNat_eq hn] at hhigh
  cases x with
  | nan => cases hlow
  | finite => rfl
  | infinite s =>
    have hs : s = true := hhigh
    have hs' : (!s) = true := hlow
    rw [hs] at hs'
    cases hs'

theorem not_lt_of_le (h : x ≤ y) : ¬ y < x := by
  have h : lessEq x y = true := h
  show ¬ less y x = true
  match x, y with
  | .infinite s, .infinite t => cases s <;> cases t <;> simp_all [less, lessEq]
  | .infinite s, .finite _ _ | .finite _ _, .infinite s => cases s <;> simp_all [less, lessEq]
  | .finite s m, .finite t n =>
    simp only [less, lessEq, decide_eq_true_eq] at h ⊢
    exact h.not_gt
  | .nan, _ => cases h
  | .infinite _, .nan | .finite _ _, .nan => cases h

end Binary64

end ColorLiteral
