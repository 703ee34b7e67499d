import ColorLiteral.Proofs.Binary64.Order
import Mathlib.Algebra.Order.Field.Rat
import Mathlib.Tactic.Linarith
import Mathlib.Tactic.NormNum

/-!
# The rational numbers behind binary64 numbers

A finite number is a rational number (`Binary64.value?`), and the rational numbers that are rounded
to it are compared with it there. What rounding gives stands on the same side of each finite number
as what was rounded, or on it (`Binary64.IsRounded`). Without more about rounding this says which
numbers are between given bounds, also where they were rounded to infinity or to zero.
-/

namespace ColorLiteral

variable {num den : Nat} {q : ℚ}

/-- The rational number that a magnitude is. -/
def Magnitude.value (m : Magnitude) : ℚ := m.units / unitsPerOne

theorem cast_unitsPerOne_pos : (0 : ℚ) < unitsPerOne := Nat.cast_pos.2 unitsPerOne_pos

theorem Magnitude.value_le_iff {m : Magnitude} : m.value ≤ q ↔ (m.units : ℚ) ≤ q * unitsPerOne :=
  div_le_iff₀ cast_unitsPerOne_pos

theorem Magnitude.le_value_iff {m : Magnitude} : q ≤ m.value ↔ q * unitsPerOne ≤ (m.units : ℚ) :=
  le_div_iff₀ cast_unitsPerOne_pos

theorem Magnitude.value_pos_iff {m : Magnitude} : 0 < m.value ↔ 0 < m.units := by
  rw [← not_le, Magnitude.value_le_iff, zero_mul, not_le, Nat.cast_pos]

namespace Binary64

variable {x : Binary64}

/-- The rational number that a finite number is. -/
def value? : Binary64 → Option ℚ
  | .finite negative m => some (if negative then -m.value else m.value)
  | _ => none

theorem value?_neg (x : Binary64) : (-x).value? = x.value?.map (- ·) := by
  show (neg x).value? = _
  cases x with
  | nan | infinite => rfl
  | finite s m => cases s <;> simp [value?, neg]

theorem value?_finite (negative : Bool) (m : Magnitude) :
    (finite negative m).value? = some (signedUnits negative m / unitsPerOne : ℚ) := by
  cases negative with
  | false => rw [value?, if_neg nofun, Magnitude.value, signedUnits, if_neg nofun, Int.cast_natCast]
  | true =>
    rw [value?, if_pos rfl, Magnitude.value, signedUnits, if_pos rfl, Int.cast_neg,
      Int.cast_natCast, neg_div]

/-- A number in the place of a small whole number is that number. -/
theorem value?_of_rank? {z : Int} (h : x.rank? = some (z * unitsPerOne)) (hz : z.natAbs < 2 ^ 53) :
    x.value? = some (z : ℚ) := by
  cases x with
  | nan => cases h
  | infinite negative =>
    have hlimit := whole_lt_unitLimit hz
    have habs : infinityRank.natAbs = z.natAbs * unitsPerOne := by
      have hplace := congrArg Int.natAbs (Option.some.inj h)
      rw [Int.natAbs_mul, Int.natAbs_natCast] at hplace
      rw [← hplace]
      cases negative <;> simp
    rw [infinityRank_eq, Int.natAbs_natCast] at habs
    omega
  | finite negative m =>
    have hunits : signedUnits negative m = z * unitsPerOne := Option.some.inj h
    rw [value?_finite, hunits]
    push_cast
    rw [mul_div_cancel_right₀ _ cast_unitsPerOne_pos.ne']

theorem value?_ofNat {n : Nat} (hn : n < 2 ^ 53) : (ofNat n).value? = some (n : ℚ) :=
  value?_of_rank? (z := n) (rank?_ofNat hn) hn

/-- A number stands on the same side of each finite number as a rational number that is not negative,
or on it. -/
structure IsRounded (x : Binary64) (q : ℚ) : Prop where
  le_of_le : ∀ m : Magnitude, q ≤ m.value → x ≤ .finite false m
  ge_of_ge : ∀ m : Magnitude, m.value ≤ q → .finite false m ≤ x

theorem finite_le_finite_iff {m m' : Magnitude} :
    .finite false m ≤ Binary64.finite false m' ↔ m.units ≤ m'.units :=
  (le_iff_of_rank? rfl rfl).trans Nat.cast_le

theorem finite_le_infinite (m : Magnitude) : .finite false m ≤ infinite false :=
  (le_iff_of_rank? rfl rfl).2 (signedUnits_bounds false m).2.le

/-- Rounding a quotient of units gives what it is called. -/
theorem isRounded_round (hden : 0 < den) (hq : q * unitsPerOne * den = num) :
    IsRounded (round false num den) q := by
  have hden' : (0 : ℚ) < den := Nat.cast_pos.2 hden
  constructor
  · intro m hm
    have hle : num ≤ m.units * den := by
      have hmul := mul_le_mul_of_nonneg_right (Magnitude.le_value_iff.1 hm) hden'.le
      rw [hq] at hmul
      exact_mod_cast hmul
    have hunits := roundUnits_le_of_le_mul m.fits hden hle
    rw [round_of_lt false (Nat.lt_of_le_of_lt hunits m.bounded)]
    exact finite_le_finite_iff.2 hunits
  · intro m hm
    have hge : m.units * den ≤ num := by
      have hmul := mul_le_mul_of_nonneg_right (Magnitude.value_le_iff.1 hm) hden'.le
      rw [hq] at hmul
      exact_mod_cast hmul
    have hunits := le_roundUnits_of_mul_le m.fits hden hge
    unfold round
    split
    · exact finite_le_finite_iff.2 hunits
    · exact finite_le_infinite m

/-! ### Rounded numbers between bounds -/

theorem zero_le_neg_iff : 0 ≤ -x ↔ x ≤ 0 := by
  rw [le_iff, le_iff, rank?_neg, rank?_zero]
  simp

/-- Small whole numbers are numbers with 53 significant bits. -/
def whole (n : Nat) (hn : n < 2 ^ 53) : Magnitude :=
  ⟨n * unitsPerOne, fitsSignificand_whole hn, whole_lt_unitLimit hn⟩

theorem ofNat_eq_whole {n : Nat} (hn : n < 2 ^ 53) : ofNat n = .finite false (whole n hn) :=
  ofNat_eq hn

theorem value_whole (n : Nat) (hn : n < 2 ^ 53) : (whole n hn).value = n := by
  rw [Magnitude.value, whole, Nat.cast_mul, mul_div_cancel_right₀ _ cast_unitsPerOne_pos.ne']

/-- The least positive number. -/
def least : Magnitude := ⟨1, ⟨1, 0, by decide, rfl⟩, by decide +kernel⟩

/-- The next number after one. -/
def afterOne : Magnitude :=
  ⟨(2 ^ 52 + 1) * Nat.pow 2 1022, ⟨2 ^ 52 + 1, 1022, by decide, rfl⟩, by decide +kernel⟩

theorem one_div_unitsPerOne {k : Nat} (hk : unitsPerOne = 2 ^ k) :
    (1 : ℚ) / unitsPerOne = 1 / 2 ^ k := by
  rw [hk, Nat.cast_pow, Nat.cast_ofNat]

theorem value_least : least.value = 1 / 2 ^ 1074 := by
  have hone : least.value = 1 / unitsPerOne := congrArg (· / (unitsPerOne : ℚ)) Nat.cast_one
  exact hone.trans (one_div_unitsPerOne (by decide +kernel))

theorem units_afterOne : afterOne.units * 2 ^ 52 = (2 ^ 52 + 1) * unitsPerOne := by
  decide +kernel

theorem value_afterOne : afterOne.value = 1 + 1 / 2 ^ 52 := by
  have hpower : ((2 ^ 52 : Nat) : ℚ) = 2 ^ 52 := by norm_num
  have hnext : ((2 ^ 52 + 1 : Nat) : ℚ) = 2 ^ 52 + 1 := by norm_num
  have hcast := congrArg (Nat.cast (R := ℚ)) units_afterOne
  rw [Nat.cast_mul, Nat.cast_mul, hpower, hnext] at hcast
  rw [Magnitude.value, div_eq_iff cast_unitsPerOne_pos.ne']
  linarith only [hcast]

namespace IsRounded

variable {n : Nat}

theorem le_ofNat (h : IsRounded x q) (hn : n < 2 ^ 53) (hq : q ≤ n) : x ≤ ofNat n := by
  rw [ofNat_eq_whole hn]
  exact h.le_of_le (whole n hn) (by rwa [value_whole])

theorem ofNat_le (h : IsRounded x q) (hn : n < 2 ^ 53) (hq : n ≤ q) : ofNat n ≤ x := by
  rw [ofNat_eq_whole hn]
  exact h.ge_of_ge (whole n hn) (by rwa [value_whole])

/-- Small whole numbers are not changed. -/
theorem rank?_eq (h : IsRounded x n) (hn : n < 2 ^ 53) :
    x.rank? = some ((n * unitsPerOne : Nat) : Int) := by
  have hsame : SameNumber x (ofNat n) := ⟨h.le_ofNat hn le_rfl, h.ofNat_le hn le_rfl⟩
  obtain ⟨a, hx, ha⟩ := sameNumber_iff.1 hsame
  rw [rank?_ofNat hn] at ha
  exact hx.trans ha.symm

/-- What is rounded from zero is one of the zeros, and a minus sign gives the other one. -/
theorem neg_between (h : IsRounded x 0) : 0 ≤ -x ∧ -x ≤ 1 := by
  have hzero : IsRounded x (0 : Nat) := by rwa [Nat.cast_zero]
  refine (between_iff_of_whole ?_).2 (.inl rfl)
  rw [rank?_neg, hzero.rank?_eq (by decide), Nat.zero_mul]
  rfl

/-- What is rounded from a greater number with 53 significant bits on stays above. -/
theorem not_le_ofNat {m : Magnitude} (h : IsRounded x q) (hn : n < 2 ^ 53) (hq : m.value ≤ q)
    (hlt : n * unitsPerOne < m.units) : ¬ x ≤ ofNat n := by
  intro hle
  have hm : .finite false m ≤ ofNat n := le_trans (h.ge_of_ge m hq) hle
  have hunits : (m.units : Int) ≤ (n * unitsPerOne : Nat) := (finite_le_ofNat_iff hn).1 hm
  omega

/-- The next number after one is `1 + 2 ^ (-52)`. -/
theorem not_le_one (h : IsRounded x q) (hq : 1 + 1 / 2 ^ 52 ≤ q) : ¬ x ≤ 1 := by
  have hlt : 1 * unitsPerOne < afterOne.units := by
    have hpos := unitsPerOne_pos
    have hunits := units_afterOne
    omega
  exact h.not_le_ofNat (n := 1) (by decide) (value_afterOne.trans_le hq) hlt

/-- The least positive number is `2 ^ (-1074)`. -/
theorem not_le_zero (h : IsRounded x q) (hq : 1 / 2 ^ 1074 ≤ q) : ¬ x ≤ 0 := by
  have hlt : 0 * unitsPerOne < least.units := by
    rw [Nat.zero_mul]
    exact Nat.one_pos
  exact h.not_le_ofNat (n := 0) (by decide) (value_least.trans_le hq) hlt

end IsRounded

end Binary64

end ColorLiteral
