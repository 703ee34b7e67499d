import ColorLiteral.Binary64.DecimalText
import ColorLiteral.Proofs.Binary64.Value
import ColorLiteral.Proofs.Literal.Decimal

/-!
# Decimals as binary64 numbers

A decimal is rounded to the number that stands for it, whatever its digits and its exponent are
(`Decimal.isRounded_toBinary64`). Where the power of ten alone decides, the decimal is beyond the
largest finite number, or nearer to zero than to the least positive one: without zeros in front its
digits spell a number between two neighbouring powers of ten.
-/

namespace ColorLiteral

namespace Decimal

/-- The rational number that a decimal is. -/
def value (d : Decimal) : ℚ := Text.valueInBase 10 d.digits * 10 ^ d.exponent

theorem valueInBase_dropWhile_zero (digits : List Nat) :
    Text.valueInBase 10 (digits.dropWhile (· == 0)) = Text.valueInBase 10 digits := by
  induction digits with
  | nil => rfl
  | cons digit digits ih =>
    rw [List.dropWhile_cons]
    split
    · next hzero =>
      obtain rfl : digit = 0 := by simpa using hzero
      rw [ih, Text.valueInBase_eq_ofDigits, Text.valueInBase_eq_ofDigits,
        Nat.ofDigits_reverse_zero_cons]
    · rfl

/-- Digits without a zero in front spell a number between two powers of ten. -/
theorem valueInBase_bounds {digit : Nat} {digits : List Nat} (hne : digit ≠ 0)
    (hlt : ∀ d ∈ digit :: digits, d < 10) :
    10 ^ digits.length ≤ Text.valueInBase 10 (digit :: digits) ∧
      Text.valueInBase 10 (digit :: digits) < 10 ^ (digits.length + 1) := by
  rw [Text.valueInBase_eq_ofDigits]
  constructor
  · exact Text.pow_length_le_ofDigits hne digits
  · have hreverse : ∀ d ∈ (digit :: digits).reverse, d < 10 :=
      fun d hd => hlt d (List.mem_reverse.1 hd)
    simpa using Nat.ofDigits_lt_base_pow_length (by decide) hreverse

/-! ### Beyond the range -/

open Binary64 (IsRounded)

variable {q : ℚ}

theorem isRounded_zero (h : q * unitsPerOne < 1) : IsRounded (.zero false) q := by
  constructor
  · intro m _
    exact Binary64.finite_le_finite_iff.2 (Nat.zero_le _)
  · intro m hm
    have hunits : (m.units : ℚ) < 1 := (Magnitude.value_le_iff.1 hm).trans_lt h
    exact Binary64.finite_le_finite_iff.2 (Nat.le_of_lt_succ (by exact_mod_cast hunits))

theorem isRounded_infinite (h : (unitLimit : ℚ) ≤ q * unitsPerOne) :
    IsRounded (.infinite false) q := by
  constructor
  · intro m hm
    have hle : (unitLimit : ℚ) ≤ m.units := h.trans (Magnitude.le_value_iff.1 hm)
    have hbounded := m.bounded
    exact absurd (Nat.cast_le.1 hle) (by omega)
  · exact fun m _ => Binary64.finite_le_infinite m

theorem unitLimit_le_pow : unitLimit ≤ 10 ^ 310 * unitsPerOne := by decide +kernel

theorem unitsPerOne_lt_pow : unitsPerOne < 10 ^ 330 := by decide +kernel

variable {n width : Nat} {e : ℤ}

theorem scale_pos (e : ℤ) : (0 : ℚ) < 10 ^ e := zpow_pos (by norm_num) e

/-- A large number in a large scale is beyond the largest finite number. -/
theorem isRounded_infinite_of_le (hn : 10 ^ width ≤ n) (he : 310 ≤ width + e) :
    IsRounded (.infinite false) (n * 10 ^ e) := by
  have hscale : (10 : ℚ) ^ 310 ≤ n * 10 ^ e := by
    calc (10 : ℚ) ^ 310 = 10 ^ (310 : ℤ) := (zpow_natCast 10 310).symm
      _ ≤ 10 ^ (width + e) := zpow_le_zpow_right₀ (by norm_num) he
      _ = 10 ^ width * 10 ^ e := by rw [zpow_add₀ (by norm_num), zpow_natCast]
      _ ≤ n * 10 ^ e := mul_le_mul_of_nonneg_right (by exact_mod_cast hn) (scale_pos e).le
  refine isRounded_infinite ?_
  calc (unitLimit : ℚ) ≤ (10 ^ 310 * unitsPerOne : Nat) := Nat.cast_le.2 unitLimit_le_pow
    _ = 10 ^ 310 * unitsPerOne := by rw [Nat.cast_mul, Nat.cast_pow, Nat.cast_ofNat]
    _ ≤ n * 10 ^ e * unitsPerOne :=
      mul_le_mul_of_nonneg_right hscale cast_unitsPerOne_pos.le

/-- A small number in a small scale is nearer to zero than to the least positive number. -/
theorem isRounded_zero_of_lt (hn : n < 10 ^ width) (he : width + e ≤ -330) :
    IsRounded (.zero false) (n * 10 ^ e) := by
  have hscale : (n : ℚ) * 10 ^ e ≤ ((10 : ℚ) ^ 330)⁻¹ := by
    calc (n : ℚ) * 10 ^ e ≤ 10 ^ width * 10 ^ e :=
          mul_le_mul_of_nonneg_right (by exact_mod_cast hn.le) (scale_pos e).le
      _ = 10 ^ (width + e) := by rw [zpow_add₀ (by norm_num), zpow_natCast]
      _ ≤ 10 ^ (-330 : ℤ) := zpow_le_zpow_right₀ (by norm_num) he
      _ = ((10 : ℚ) ^ 330)⁻¹ := by rw [zpow_neg]; exact congrArg _ (zpow_natCast 10 330)
  have hunits : (unitsPerOne : ℚ) < 10 ^ 330 := by
    calc (unitsPerOne : ℚ) < (10 ^ 330 : Nat) := Nat.cast_lt.2 unitsPerOne_lt_pow
      _ = 10 ^ 330 := by rw [Nat.cast_pow, Nat.cast_ofNat]
  have hpos : (0 : ℚ) < 10 ^ 330 := pow_pos (by norm_num) _
  refine isRounded_zero ?_
  calc (n : ℚ) * 10 ^ e * unitsPerOne ≤ ((10 : ℚ) ^ 330)⁻¹ * unitsPerOne :=
        mul_le_mul_of_nonneg_right hscale cast_unitsPerOne_pos.le
    _ < ((10 : ℚ) ^ 330)⁻¹ * 10 ^ 330 := mul_lt_mul_of_pos_left hunits (inv_pos.2 hpos)
    _ = 1 := inv_mul_cancel₀ hpos.ne'

/-! ### In the range -/

theorem isRounded_scaled (n : Nat) (e : ℤ) :
    IsRounded (match e with
      | .ofNat e => .round false (n * unitsPerOne * Nat.pow 10 e) 1
      | .negSucc e => .round false (n * unitsPerOne) (Nat.pow 10 (e + 1))) (n * 10 ^ e) := by
  cases e with
  | ofNat e =>
    refine Binary64.isRounded_round Nat.one_pos ?_
    show (n : ℚ) * 10 ^ (e : ℤ) * unitsPerOne * (1 : Nat) = (n * unitsPerOne * 10 ^ e : Nat)
    rw [zpow_natCast]
    push_cast
    ring
  | negSucc e =>
    have hpow : 0 < 10 ^ (e + 1) := Nat.pow_pos (by decide)
    refine Binary64.isRounded_round hpow ?_
    show (n : ℚ) * 10 ^ Int.negSucc e * unitsPerOne * (10 ^ (e + 1) : Nat) =
      (n * unitsPerOne : Nat)
    have hne : (10 : ℚ) ^ (e + 1) ≠ 0 := pow_ne_zero _ (by norm_num)
    rw [zpow_negSucc, Nat.cast_pow, Nat.cast_ofNat, Nat.cast_mul, mul_right_comm,
      inv_mul_cancel_right₀ hne]

/-- A decimal is rounded to the number that stands for it. -/
theorem isRounded_toBinary64 {d : Decimal} (hdigits : ∀ digit ∈ d.digits, digit < 10) :
    IsRounded (d.toBinary64 false) d.value := by
  have hvalue : d.value =
      Text.valueInBase 10 (d.digits.dropWhile (· == 0)) * 10 ^ d.exponent := by
    rw [value, valueInBase_dropWhile_zero]
  rw [hvalue, toBinary64]
  dsimp only
  cases hsignificant : d.digits.dropWhile (· == 0) with
  | nil =>
    refine isRounded_zero ?_
    rw [Text.valueInBase, List.foldl_nil, Nat.cast_zero, zero_mul, zero_mul]
    exact one_pos
  | cons digit digits =>
    have hne : digit ≠ 0 := by
      have := List.head?_dropWhile_not (· == 0) d.digits
      simpa [hsignificant] using this
    have hlt : ∀ e ∈ digit :: digits, e < 10 := by
      rw [← hsignificant]
      exact fun e he => hdigits e ((List.dropWhile_suffix _).subset he)
    obtain ⟨hlow, hhigh⟩ := valueInBase_bounds hne hlt
    rw [if_neg (by simp), List.length_cons]
    split
    · exact isRounded_infinite_of_le hlow (by omega)
    split
    · exact isRounded_zero_of_lt hhigh (by omega)
    · exact isRounded_scaled _ _

end Decimal

end ColorLiteral
