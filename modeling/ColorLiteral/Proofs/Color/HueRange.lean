import ColorLiteral.Binary64.DecimalText
import ColorLiteral.Color.Space
import ColorLiteral.Proofs.Binary64.Value

/-!
# The range of wrapped hues

A wrapped hue is meant to be less than a whole turn. The remainder that it starts from is exact, but
the turn that is added to a negative one is not: what is left of the turn has 53 significant bits as
well, in steps of `2 ^ (-44)` degrees next to the whole turn. So a remainder of at most half a step
below zero is lost, and the hue becomes a whole turn (`roundUnits_turn_sub`). A hue of a turn or more
has no such remainder, since it is itself a whole number of these steps. What is left are the hues
from `-2 ^ (-45)` to zero (`ColorSpace.wrapHue_lt_iff`).
-/

namespace ColorLiteral

variable {n : Nat}

/-! ### What is left of a turn -/

/-- Half a unit above an odd number is rounded up. -/
theorem roundHalfEven_half {num den k : Nat} (h : 2 * num = 2 * (k * den) + den)
    (hden : 0 < den) (hodd : k % 2 = 1) : roundHalfEven num den = k + 1 := by
  have hdiv : num / den = k :=
    Nat.div_eq_of_lt_le (by omega) (by rw [Nat.add_mul, Nat.one_mul]; omega)
  have hmod : den = 2 * (num % den) := by
    have hsplit := Nat.div_add_mod' num den
    rw [hdiv] at hsplit
    omega
  rw [roundHalfEven, hdiv]
  exact if_pos (.inr ⟨hmod, hodd⟩)

/-- An even number without a part of a unit is rounded to itself if the part is at most a half. -/
theorem le_roundHalfEven_mul_sub_iff {k step : Nat} (hk : 0 < k) (heven : k % 2 = 0)
    (hn : n < step) : k ≤ roundHalfEven (k * step - n) step ↔ 2 * n ≤ step := by
  obtain ⟨j, rfl⟩ : ∃ j, k = j + 1 := ⟨k - 1, by omega⟩
  rw [Nat.add_mul, Nat.one_mul]
  rcases Nat.lt_trichotomy (2 * n) step with hless | htie | hmore
  · have hround : roundHalfEven (j * step + step - n) step = j + 1 :=
      roundHalfEven_eq (by rw [Nat.add_mul, Nat.one_mul]; omega)
        (by rw [Nat.add_mul, Nat.one_mul]; omega)
    omega
  · have hround : roundHalfEven (j * step + step - n) step = j + 1 :=
      roundHalfEven_half (by omega) (by omega) (by omega)
    omega
  · have hround : roundHalfEven (j * step + step - n) step = j :=
      roundHalfEven_eq (by omega) (by omega)
    omega

/-- The units of a whole turn, in degrees. -/
def turnUnits : Nat := 360 * unitsPerOne

/-- The distance between the numbers just below a whole turn, in units. -/
@[irreducible]
def turnStep : Nat := Nat.pow 2 1030

theorem turnStep_spec : unitsPerOne = 2 ^ 44 * turnStep ∧ turnStep = 2 ^ 1030 := by
  decide +kernel

theorem turnUnits_pos : 0 < turnUnits := Nat.mul_pos (by decide) unitsPerOne_pos

theorem turnUnits_eq : turnUnits = 360 * 2 ^ 44 * turnStep := by
  rw [turnUnits, turnStep_spec.1, Nat.mul_assoc]

theorem turnStep_pos : 0 < turnStep := by
  have hpos := turnUnits_pos
  rw [turnUnits_eq] at hpos
  omega

-- Which power it is makes no difference to what follows.
theorem exists_turnStep_eq : ∃ k, turnStep = 2 ^ k := ⟨1030, turnStep_spec.2⟩

theorem fitsSignificand_turnStep (hn : n < 2 ^ 53) : FitsSignificand (n * turnStep) := by
  obtain ⟨k, hk⟩ := exists_turnStep_eq
  exact ⟨n, k, hn, by rw [hk]; rfl⟩

/-- Between 256 degrees and 512 all numbers are multiples of the step. -/
theorem gridStep_eq_turnStep (hlow : 2 ^ 52 * turnStep ≤ n) (hhigh : n < 2 ^ 53 * turnStep) :
    gridStep n = turnStep := by
  have hpos := turnStep_pos
  obtain ⟨k, hk⟩ := exists_turnStep_eq
  have hlog : n.log2 = 52 + k := by
    refine (Nat.log2_eq_iff (by omega)).2 ⟨?_, ?_⟩
    · rwa [Nat.pow_add, ← hk]
    · rwa [Nat.add_right_comm, Nat.pow_add, ← hk]
  rw [gridStep, hlog, Nat.add_sub_cancel_left, hk]
  rfl

/-- A turn without at most half a step is a whole turn again. -/
theorem turnUnits_le_roundUnits_iff (hpos : 0 < n) (hn : n ≤ turnUnits) :
    turnUnits ≤ roundUnits (turnUnits - n) 1 ↔ 2 ^ 45 * n ≤ unitsPerOne := by
  have hstep := turnStep_pos
  rw [turnStep_spec.1]
  rw [turnUnits_eq] at hn ⊢
  by_cases hsmall : n < turnStep
  · have hgrid : gridStep (360 * 2 ^ 44 * turnStep - n) = turnStep :=
      gridStep_eq_turnStep (by omega) (by omega)
    have hround : 360 * 2 ^ 44 ≤ roundHalfEven (360 * 2 ^ 44 * turnStep - n) turnStep ↔
        2 * n ≤ turnStep :=
      le_roundHalfEven_mul_sub_iff (by decide) (by decide) hsmall
    rw [roundUnits, Nat.div_one, hgrid, Nat.one_mul, Nat.mul_le_mul_right_iff hstep, hround]
    omega
  · -- a whole step is taken away
    have hfits : FitsSignificand ((360 * 2 ^ 44 - 1) * turnStep) :=
      fitsSignificand_turnStep (by decide)
    have hless : 360 * 2 ^ 44 * turnStep - n ≤ (360 * 2 ^ 44 - 1) * turnStep * 1 := by omega
    have hunits := roundUnits_le_of_le_mul hfits Nat.one_pos hless
    omega

/-- The numbers from a turn on are multiples of the step. -/
theorem turnStep_dvd (hfits : FitsSignificand n) (hn : turnUnits ≤ n) : turnStep ∣ n := by
  have hstep := turnStep_pos
  have hgrid : gridStep turnUnits = turnStep :=
    gridStep_eq_turnStep (by rw [turnUnits_eq]; omega) (by rw [turnUnits_eq]; omega)
  rw [← hgrid]
  exact Nat.dvd_trans (gridStep_dvd_gridStep hn) (gridStep_dvd hfits)

/-- A remainder that is lost next to the turn is the whole number. -/
theorem mod_turnUnits_eq_self (hfits : FitsSignificand n) (hpos : 0 < n % turnUnits)
    (hsmall : 2 ^ 45 * (n % turnUnits) ≤ unitsPerOne) : n % turnUnits = n := by
  refine Nat.mod_eq_of_lt (Nat.lt_of_not_le fun hn => ?_)
  have hturn : turnStep ∣ turnUnits := ⟨360 * 2 ^ 44, by rw [turnUnits_eq, Nat.mul_comm]⟩
  have hdvd : turnStep ∣ n % turnUnits := (Nat.dvd_mod_iff hturn).2 (turnStep_dvd hfits hn)
  have hle := Nat.le_of_dvd hpos hdvd
  rw [turnStep_spec.1] at hsmall
  have hstep := turnStep_pos
  omega

/-- A remainder is lost next to the turn exactly if the number itself is. -/
theorem mod_turnUnits_lost_iff (hfits : FitsSignificand n) :
    0 < n % turnUnits ∧ 2 ^ 45 * (n % turnUnits) ≤ unitsPerOne ↔
      0 < n ∧ 2 ^ 45 * n ≤ unitsPerOne := by
  constructor
  · rintro ⟨hpos, hsmall⟩
    have hself := mod_turnUnits_eq_self hfits hpos hsmall
    rw [hself] at hpos hsmall
    exact ⟨hpos, hsmall⟩
  · rintro ⟨hpos, hsmall⟩
    have hself : n % turnUnits = n := by
      refine Nat.mod_eq_of_lt ?_
      rw [turnUnits]
      omega
    rw [hself]
    exact ⟨hpos, hsmall⟩

/-! ### Wrapped hues -/

namespace Binary64

/-- A whole turn. -/
def turn : Magnitude := whole 360 (by decide)

theorem turn_eq : (360 : Binary64) = .finite false turn := ofNat_eq_whole (by decide)

theorem turn_units : turn.units = turnUnits := rfl

/-- The remainder by a turn is exact. -/
theorem exists_rem_turn (negative : Bool) (m : Magnitude) :
    ∃ r : Magnitude, r.units = m.units % turnUnits ∧
      rem (.finite negative m) 360 = .finite negative r := by
  have hfits := fitsSignificand_mod m.fits turn.fits
  rw [turn_units] at hfits
  have hunits := roundUnits_eq_self hfits
  have hlt := Nat.lt_of_le_of_lt (Nat.mod_le m.units turnUnits) m.bounded
  have hpos : turn.units ≠ 0 := Nat.ne_of_gt turnUnits_pos
  rw [← hunits] at hlt
  refine ⟨⟨_, fitsSignificand_roundUnits _ _, hlt⟩, hunits, ?_⟩
  rw [turn_eq, rem, if_neg hpos]
  exact round_of_lt negative hlt

/-- The sum of a negative number and a turn is rounded once. -/
theorem exists_add_turn {r : Magnitude} (hr : r.units < turnUnits) :
    ∃ v : Magnitude, v.units = roundUnits (turnUnits - r.units) 1 ∧ v.units ≤ turnUnits ∧
      finite true r + 360 = finite false v := by
  have hunits : roundUnits (turnUnits - r.units) 1 ≤ turnUnits :=
    roundUnits_le_of_le_mul turn.fits Nat.one_pos (by omega)
  have hlt := Nat.lt_of_le_of_lt hunits turn.bounded
  have hsum : signedUnits true r + signedUnits false turn =
      Int.ofNat (turnUnits - r.units) := by
    show -(r.units : Int) + (turnUnits : Int) = (turnUnits - r.units : Nat)
    omega
  have hne : Int.ofNat (turnUnits - r.units) ≠ 0 := by
    show ((turnUnits - r.units : Nat) : Int) ≠ 0
    omega
  refine ⟨⟨_, fitsSignificand_roundUnits _ _, hlt⟩, rfl, hunits, ?_⟩
  show add _ _ = _
  rw [turn_eq, add, hsum, if_neg hne, roundInt, round_of_lt false hlt]

end Binary64

namespace ColorSpace

open Binary64 (signedUnits)

theorem wrapHue_eq_ite (hue : Binary64) :
    wrapHue hue = if hue.rem 360 < 0 then hue.rem 360 + 360 else hue.rem 360 := rfl

theorem finite_lt_zero_iff {negative : Bool} {m : Magnitude} :
    Binary64.finite negative m < 0 ↔ negative = true ∧ 0 < m.units := by
  have hzero : Binary64.finite negative m < 0 ↔ signedUnits negative m < 0 :=
    Binary64.lt_iff_of_rank? rfl Binary64.rank?_zero
  rw [hzero]
  cases negative <;> simp [signedUnits]

/-- Without a turn the remainder is the wrapped hue. -/
theorem wrapHue_of_rem {hue : Binary64} {negative : Bool} {r : Magnitude}
    (hrem : hue.rem 360 = .finite negative r) (h : ¬ (negative = true ∧ 0 < r.units)) :
    wrapHue hue = .finite negative r := by
  rw [wrapHue_eq_ite, hrem, if_neg (mt finite_lt_zero_iff.1 h)]

/-- A negative remainder becomes what is left of a turn. -/
theorem wrapHue_of_rem_neg {hue : Binary64} {r : Magnitude}
    (hrem : hue.rem 360 = .finite true r) (hpos : 0 < r.units) :
    wrapHue hue = .finite true r + 360 := by
  rw [wrapHue_eq_ite, hrem, if_pos (finite_lt_zero_iff.2 ⟨rfl, hpos⟩)]

/-- A wrapped hue is from zero to a turn, and it is the turn only where the sum rounds to it. -/
theorem exists_wrapHue (negative : Bool) (m : Magnitude) :
    ∃ t v, wrapHue (Binary64.finite negative m) = Binary64.finite t v ∧ 0 ≤ signedUnits t v ∧
      signedUnits t v ≤ turnUnits ∧ (signedUnits t v = turnUnits ↔
        negative = true ∧ 0 < m.units ∧ 2 ^ 45 * m.units ≤ unitsPerOne) := by
  obtain ⟨r, hr, hrem⟩ := Binary64.exists_rem_turn negative m
  have hlt : r.units < turnUnits := by
    rw [hr]
    exact Nat.mod_lt m.units turnUnits_pos
  rw [← mod_turnUnits_lost_iff m.fits, ← hr]
  by_cases hneg : negative = true ∧ 0 < r.units
  · obtain ⟨rfl, hpos⟩ := hneg
    obtain ⟨v, hv, hle, hsum⟩ := Binary64.exists_add_turn hlt
    have hsigned : signedUnits false v = v.units := rfl
    have hlost : turnUnits ≤ v.units ↔ 2 ^ 45 * r.units ≤ unitsPerOne := by
      rw [hv]
      exact turnUnits_le_roundUnits_iff hpos hlt.le
    refine ⟨false, v, (wrapHue_of_rem_neg hrem hpos).trans hsum, by omega, by omega, ?_⟩
    rw [← hlost, hsigned]
    constructor
    · exact fun hwhole => ⟨rfl, hpos, by omega⟩
    · rintro ⟨-, -, hwhole⟩
      omega
  · have hsigned : signedUnits negative r = r.units := by
      cases negative with
      | false => rfl
      | true =>
        have hzero : r.units = 0 := by simpa using hneg
        simp [signedUnits, hzero]
    exact ⟨negative, r, wrapHue_of_rem hrem hneg, by omega, by omega,
      iff_of_false (by omega) fun h => hneg ⟨h.1, h.2.1⟩⟩

/-- The numbers that are at most `2 ^ (-45)` below zero. -/
theorem value_barely_negative_iff {h : ℚ} {negative : Bool} {m : Magnitude}
    (hvalue : (Binary64.finite negative m).value? = some h) :
    -(1 / 2 ^ 45) ≤ h ∧ h < 0 ↔
      negative = true ∧ 0 < m.units ∧ 2 ^ 45 * m.units ≤ unitsPerOne := by
  obtain rfl := Option.some.inj hvalue
  cases negative with
  | false =>
    have hnonneg : 0 ≤ m.value := div_nonneg (Nat.cast_nonneg _) cast_unitsPerOne_pos.le
    exact iff_of_false (fun h => absurd h.2 hnonneg.not_gt) nofun
  | true =>
    have hlow : -(1 / 2 ^ 45) ≤ -m.value ↔ 2 ^ 45 * m.units ≤ unitsPerOne := by
      rw [neg_le_neg_iff, Magnitude.value_le_iff, one_div_mul_eq_div, le_div_iff₀' (by norm_num)]
      exact_mod_cast Iff.rfl
    have hneg : -m.value < 0 ↔ 0 < m.units := by
      rw [neg_lt_zero, Magnitude.value_pos_iff]
    rw [if_pos rfl, hlow, hneg, and_comm]
    exact (and_iff_right rfl).symm

theorem finite_lt_turn_iff {negative : Bool} {m : Magnitude} :
    Binary64.finite negative m < 360 ↔ signedUnits negative m < turnUnits := by
  rw [Binary64.turn_eq]
  exact Binary64.lt_iff_of_rank? rfl rfl

/-- A wrapped hue is from zero to a whole turn, and it is less than the turn unless the hue is at
most `2 ^ (-45)` degrees below zero. -/
theorem wrapHue_lt_iff {hue : Binary64} {h : ℚ} (hvalue : hue.value? = some h) :
    0 ≤ wrapHue hue ∧ wrapHue hue ≤ 360 ∧
      (wrapHue hue < 360 ↔ ¬ (-(1 / 2 ^ 45) ≤ h ∧ h < 0)) := by
  match hue, hvalue with
  | .finite negative m, hvalue =>
    obtain ⟨t, v, heq, hlow, hhigh, hiff⟩ := exists_wrapHue negative m
    rw [heq, value_barely_negative_iff hvalue, ← hiff, finite_lt_turn_iff]
    refine ⟨?_, ?_, by omega⟩
    · exact (Binary64.ofNat_le_finite_iff (n := 0) (by decide)).2 (by omega)
    · exact (Binary64.finite_le_ofNat_iff (n := 360) (by decide)).2 hhigh

/-- A hue of more than two turns backwards. -/
theorem wrapHue_lt_iff_backwards : (-725 : Binary64).value? = some (-725) ∧
    0 ≤ wrapHue (-725 : Binary64) ∧ wrapHue (-725 : Binary64) < 360 := by
  have hvalue : (-725 : Binary64).value? = some (-725) := by
    rw [Binary64.value?_neg]
    exact congrArg (Option.map (- ·)) (Binary64.value?_ofNat (n := 725) (by decide))
  obtain ⟨hlow, -, hiff⟩ := wrapHue_lt_iff hvalue
  exact ⟨hvalue, hlow, hiff.2 (by norm_num)⟩

/-- A hue just below zero is wrapped to a whole turn. -/
theorem not_wrapHue_lt_barely_negative : ∃ hue, Binary64.ofText? "-1e-20".toList = some hue ∧
    hue.isFinite = true ∧ wrapHue hue = 360 ∧ ¬ wrapHue hue < 360 := by
  have hread : (Binary64.ofText? "-1e-20".toList).any (fun hue =>
      hue.isFinite && decide (wrapHue hue = 360) && !decide (wrapHue hue < 360)) = true := by
    decide +kernel
  obtain ⟨hue, hhue, h⟩ := (Option.any_eq_true _ _).1 hread
  simp only [Bool.and_eq_true, decide_eq_true_eq, Bool.not_eq_true', decide_eq_false_iff_not] at h
  exact ⟨hue, hhue, h.1.1, h.1.2, h.2⟩

end ColorSpace

end ColorLiteral
