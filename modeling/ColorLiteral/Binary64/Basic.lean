/-!
# Binary64 numbers

The binary64 numbers of IEEE 754 as exact values. Every finite number is a whole count of units of
`2 ^ (-1074)`, so a finite number is a sign and a count with at most 53 significant bits, and each
operation computes its exact result as a quotient of counts and rounds it once, to the nearest
number and a tie to the even one. Nothing here rests on the machine's own arithmetic.
-/

namespace ColorLiteral

/-- The number of units in one. -/
def unitsPerOne : Nat := Nat.pow 2 1074

/-- The least count of units that is too large for a finite number. -/
def unitLimit : Nat := Nat.pow 2 2098

theorem unitLimit_pos : 0 < unitLimit := by decide +kernel

/-- A count of units has at most 53 significant bits. -/
def FitsSignificand (units : Nat) : Prop :=
  ∃ m k, m < Nat.pow 2 53 ∧ units = m * Nat.pow 2 k

/-! ### Rounding -/

/-- The natural number nearest to a quotient, the even one of two that are equally near. -/
def roundHalfEven (num den : Nat) : Nat :=
  let quotient := num / den
  let twice := 2 * (num % den)
  if den < twice ∨ (den = twice ∧ quotient % 2 = 1) then quotient + 1 else quotient

/-- The distance between neighbouring magnitudes around a count of units. -/
def gridStep (units : Nat) : Nat := Nat.pow 2 (units.log2 - 52)

/-- The count with 53 significant bits nearest to a quotient of counts, a tie to the even one. -/
def roundUnits (num den : Nat) : Nat :=
  let step := gridStep (num / den)
  roundHalfEven num (den * step) * step

theorem roundHalfEven_le (num den : Nat) : roundHalfEven num den ≤ num / den + 1 := by
  unfold roundHalfEven; dsimp only; split <;> omega

theorem le_roundHalfEven (num den : Nat) : num / den ≤ roundHalfEven num den := by
  unfold roundHalfEven; dsimp only; split <;> omega

theorem div_gridStep_lt (units : Nat) : units / gridStep units < Nat.pow 2 53 := by
  have hlt : units < 2 ^ (units.log2 + 1) := Nat.lt_log2_self
  refine (Nat.div_lt_iff_lt_mul (Nat.two_pow_pos (units.log2 - 52))).2 ?_
  show units < 2 ^ 53 * 2 ^ (units.log2 - 52)
  rw [← Nat.pow_add]
  exact Nat.lt_of_lt_of_le hlt (Nat.pow_le_pow_right (by decide) (by omega))

/-- What rounding gives has at most 53 significant bits. -/
theorem fitsSignificand_roundUnits (num den : Nat) : FitsSignificand (roundUnits num den) := by
  have hle : roundHalfEven num (den * gridStep (num / den)) ≤ Nat.pow 2 53 := by
    refine Nat.le_trans (roundHalfEven_le _ _) ?_
    have := div_gridStep_lt (num / den)
    rw [Nat.div_div_eq_div_mul] at this
    omega
  rcases Nat.lt_or_eq_of_le hle with hlt | heq
  · exact ⟨_, _, hlt, rfl⟩
  · refine ⟨Nat.pow 2 52, (num / den).log2 - 52 + 1, by decide, ?_⟩
    show roundHalfEven num (den * gridStep (num / den)) * gridStep (num / den) = _
    rw [heq]
    show 2 ^ 53 * 2 ^ _ = 2 ^ 52 * 2 ^ (_ + 1)
    rw [Nat.pow_succ]
    omega

theorem fitsSignificand_zero : FitsSignificand 0 := ⟨0, 0, by decide, by simp⟩

/-! ### Numbers -/

/-- The magnitude of a finite number. -/
structure Magnitude where
  units : Nat
  fits : FitsSignificand units
  bounded : units < unitLimit
  deriving DecidableEq

/-- A binary64 number. -/
inductive Binary64
  | nan
  | infinite (negative : Bool)
  | finite (negative : Bool) (magnitude : Magnitude)
  deriving DecidableEq

namespace Binary64

/-- The zero of a sign. -/
def zero (negative : Bool) : Binary64 :=
  .finite negative ⟨0, fitsSignificand_zero, unitLimit_pos⟩

/-- The number of a sign nearest to a quotient of units; beyond the largest one, infinity. -/
def round (negative : Bool) (num den : Nat) : Binary64 :=
  if h : roundUnits num den < unitLimit then
    .finite negative ⟨roundUnits num den, fitsSignificand_roundUnits num den, h⟩
  else .infinite negative

/-- The number nearest to a signed count of units; no units are the positive zero. -/
def roundInt : Int → Binary64
  | .ofNat units => round false units 1
  | .negSucc units => round true (units + 1) 1

/-- The number nearest to a natural number. -/
def ofNat (n : Nat) : Binary64 := round false (n * unitsPerOne) 1

/-- The number nearest to an integer. -/
def ofInt (n : Int) : Binary64 := roundInt (n * unitsPerOne)

instance (n : Nat) : OfNat Binary64 n := ⟨ofNat n⟩

/-- Whether a number is finite. -/
def isFinite : Binary64 → Bool
  | .finite _ _ => true
  | _ => false

/-- Whether a number is an infinity. -/
def isInfinite : Binary64 → Bool
  | .infinite _ => true
  | _ => false

/-- The signed count of units of a finite number. -/
def signedUnits (negative : Bool) (magnitude : Magnitude) : Int :=
  if negative then -(magnitude.units : Int) else magnitude.units

/-! ### Arithmetic -/

/-- The number of opposite sign. -/
def neg : Binary64 → Binary64
  | .nan => .nan
  | .infinite s => .infinite !s
  | .finite s m => .finite (!s) m

/-- The number without its sign. -/
def abs : Binary64 → Binary64
  | .nan => .nan
  | .infinite _ => .infinite false
  | .finite _ m => .finite false m

/-- The sum, rounded; a sum of two negative zeros keeps its sign. -/
def add : Binary64 → Binary64 → Binary64
  | .nan, _ | _, .nan => .nan
  | .infinite s, .infinite t => if s = t then .infinite s else .nan
  | .infinite s, .finite _ _ => .infinite s
  | .finite _ _, .infinite t => .infinite t
  | .finite s m, .finite t n =>
    let sum := signedUnits s m + signedUnits t n
    if sum = 0 then zero (s && t) else roundInt sum

/-- The product, rounded. -/
def mul : Binary64 → Binary64 → Binary64
  | .nan, _ | _, .nan => .nan
  | .infinite s, .infinite t => .infinite (s != t)
  | .infinite s, .finite t n => if n.units = 0 then .nan else .infinite (s != t)
  | .finite s m, .infinite t => if m.units = 0 then .nan else .infinite (s != t)
  | .finite s m, .finite t n => round (s != t) (m.units * n.units) unitsPerOne

/-- The quotient, rounded. -/
def div : Binary64 → Binary64 → Binary64
  | .nan, _ | _, .nan => .nan
  | .infinite _, .infinite _ => .nan
  | .infinite s, .finite t _ => .infinite (s != t)
  | .finite s _, .infinite t => zero (s != t)
  | .finite s m, .finite t n =>
    if n.units = 0 then
      if m.units = 0 then .nan else .infinite (s != t)
    else round (s != t) (m.units * unitsPerOne) n.units

/-- The remainder of a division that truncates: it has the sign of the dividend and is exact. -/
def rem : Binary64 → Binary64 → Binary64
  | .nan, _ | _, .nan => .nan
  | .infinite _, _ => .nan
  | .finite s m, .infinite _ => .finite s m
  | .finite s m, .finite _ n =>
    if n.units = 0 then .nan else round s (m.units % n.units) 1

instance : Neg Binary64 := ⟨neg⟩
instance : Add Binary64 := ⟨add⟩
instance : Sub Binary64 := ⟨fun x y => add x (neg y)⟩
instance : Mul Binary64 := ⟨mul⟩
instance : Div Binary64 := ⟨div⟩

/-! ### Order -/

/-- Whether a number is less than another one; no number is less or greater than a NaN. -/
def less : Binary64 → Binary64 → Bool
  | .nan, _ | _, .nan => false
  | .infinite s, .infinite t => s && !t
  | .infinite s, .finite _ _ => s
  | .finite _ _, .infinite t => !t
  | .finite s m, .finite t n => signedUnits s m < signedUnits t n

/-- Whether a number is at most another one; this never holds of a NaN. -/
def lessEq : Binary64 → Binary64 → Bool
  | .nan, _ | _, .nan => false
  | .infinite s, .infinite t => s || !t
  | .infinite s, .finite _ _ => s
  | .finite _ _, .infinite t => !t
  | .finite s m, .finite t n => signedUnits s m ≤ signedUnits t n

instance : LT Binary64 := ⟨fun x y => less x y = true⟩
instance : LE Binary64 := ⟨fun x y => lessEq x y = true⟩
instance (x y : Binary64) : Decidable (x < y) := inferInstanceAs (Decidable (less x y = true))
instance (x y : Binary64) : Decidable (x ≤ y) := inferInstanceAs (Decidable (lessEq x y = true))

/-- The natural number nearest to a finite magnitude, a tie to the even one; 0 for the rest. -/
def nearestNat : Binary64 → Nat
  | .finite _ m => roundHalfEven m.units unitsPerOne
  | _ => 0

end Binary64

end ColorLiteral
