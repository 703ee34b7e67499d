import ColorLiteral.Proofs.Binary64.Rounding

/-!
# Rounding keeps the order

Rounding does not cross a number with 53 significant bits: a quotient on one side of such a number is
rounded to the same side of it or onto it (`roundUnits_le_of_le_mul`, `le_roundUnits_of_mul_le`).

Apart from a NaN the numbers are ordered as integers are. A finite number stands at its signed count
of units and an infinity at the limit of the finite numbers (`Binary64.rank?`), which turns each fact
about the order into one about integers.
-/

namespace ColorLiteral

variable {num den n k : Nat}

/-! ### Whole numbers -/

theorem roundHalfEven_le_of_le_mul (hden : 0 < den) (h : num ≤ k * den) :
    roundHalfEven num den ≤ k := by
  have hround := (roundHalfEven_bounds num hden).1
  by_contra hlt
  have hmul : (k + 1) * den ≤ roundHalfEven num den * den :=
    Nat.mul_le_mul_right _ (Nat.not_le.1 hlt)
  rw [Nat.add_mul, Nat.one_mul] at hmul
  omega

theorem le_roundHalfEven_of_mul_le (hden : 0 < den) (h : k * den ≤ num) :
    k ≤ roundHalfEven num den :=
  Nat.le_trans ((Nat.le_div_iff_mul_le hden).2 h) (le_roundHalfEven num den)

/-! ### Significant bits -/

theorem log2_le_log2 (hn : n ≠ 0) (h : n ≤ k) : n.log2 ≤ k.log2 :=
  (Nat.le_log2 (by omega)).2 (Nat.le_trans (Nat.log2_self_le hn) h)

theorem gridStep_dvd_gridStep (h : n ≤ k) : gridStep n ∣ gridStep k := by
  rcases Nat.eq_zero_or_pos n with rfl | hpos
  · have hone : gridStep 0 = 1 := by decide
    rw [hone]
    exact Nat.one_dvd _
  · have hlog := log2_le_log2 (Nat.pos_iff_ne_zero.1 hpos) h
    exact Nat.pow_dvd_pow 2 (by omega)

/-- Rounding does not go above a number with 53 significant bits. -/
theorem roundUnits_le_of_le_mul (hk : FitsSignificand k) (hden : 0 < den) (h : num ≤ k * den) :
    roundUnits num den ≤ k := by
  have hdiv : num / den ≤ k := Nat.div_le_of_le_mul (by rwa [Nat.mul_comm])
  obtain ⟨j, hj⟩ := Nat.dvd_trans (gridStep_dvd_gridStep hdiv) (gridStep_dvd hk)
  have hsteps : num ≤ j * (den * gridStep (num / den)) := by
    calc num ≤ k * den := h
      _ = gridStep (num / den) * j * den := by rw [← hj]
      _ = j * (den * gridStep (num / den)) := by ring
  calc roundUnits num den ≤ j * gridStep (num / den) := Nat.mul_le_mul_right _
        (roundHalfEven_le_of_le_mul (Nat.mul_pos hden (gridStep_pos _)) hsteps)
    _ = k := by rw [Nat.mul_comm, ← hj]

theorem le_roundUnits_of_dvd (hden : 0 < den) (hk : gridStep (num / den) ∣ k)
    (h : k * den ≤ num) : k ≤ roundUnits num den := by
  obtain ⟨j, hj⟩ := hk
  have hsteps : j * (den * gridStep (num / den)) ≤ num := by
    calc j * (den * gridStep (num / den)) = gridStep (num / den) * j * den := by ring
      _ = k * den := by rw [← hj]
      _ ≤ num := h
  calc k = j * gridStep (num / den) := by rw [Nat.mul_comm, ← hj]
    _ ≤ roundUnits num den := Nat.mul_le_mul_right _
        (le_roundHalfEven_of_mul_le (Nat.mul_pos hden (gridStep_pos _)) hsteps)

/-- Rounding does not go below a number with 53 significant bits. -/
theorem le_roundUnits_of_mul_le (hk : FitsSignificand k) (hden : 0 < den) (h : k * den ≤ num) :
    k ≤ roundUnits num den := by
  have hdiv : k ≤ num / den := (Nat.le_div_iff_mul_le hden).2 h
  rcases Nat.eq_zero_or_pos k with rfl | hpos
  · exact Nat.zero_le _
  have hne : num / den ≠ 0 := by omega
  by_cases hlog : k.log2 = (num / den).log2
  · refine le_roundUnits_of_dvd hden ?_ h
    rw [gridStep, ← hlog]
    exact gridStep_dvd hk
  · -- a power of two lies between the two, and it is on every grid below it
    have hlt : k.log2 < (num / den).log2 :=
      Nat.lt_of_le_of_ne (log2_le_log2 (by omega) hdiv) hlog
    have hpower : 2 ^ (num / den).log2 * den ≤ num :=
      (Nat.le_div_iff_mul_le hden).1 (Nat.log2_self_le hne)
    have hgrid : gridStep (num / den) ∣ 2 ^ (num / den).log2 :=
      Nat.pow_dvd_pow 2 (Nat.sub_le _ _)
    exact Nat.le_trans (Nat.le_of_lt ((Nat.log2_lt (by omega)).1 hlt))
      (le_roundUnits_of_dvd hden hgrid hpower)

/-- Two counts with 53 significant bits leave a remainder that has no more. -/
theorem fitsSignificand_mod (hn : FitsSignificand n) (hk : FitsSignificand k) :
    FitsSignificand (n % k) := by
  obtain ⟨m, i, hm, rfl⟩ := hn
  obtain ⟨l, j, hl, rfl⟩ := hk
  rcases Nat.le_total j i with hle | hle
  · rcases Nat.eq_zero_or_pos l with rfl | hpos
    · rw [Nat.zero_mul, Nat.mod_zero]
      exact ⟨m, i, hm, rfl⟩
    · have hpow : Nat.pow 2 i = Nat.pow 2 (i - j) * Nat.pow 2 j := by
        show 2 ^ i = 2 ^ (i - j) * 2 ^ j
        rw [← Nat.pow_add, Nat.sub_add_cancel hle]
      rw [hpow, ← Nat.mul_assoc, Nat.mul_mod_mul_right]
      exact ⟨_, j, Nat.lt_trans (Nat.mod_lt _ hpos) hl, rfl⟩
  · have hpow : Nat.pow 2 j = Nat.pow 2 (j - i) * Nat.pow 2 i := by
      show 2 ^ j = 2 ^ (j - i) * 2 ^ i
      rw [← Nat.pow_add, Nat.sub_add_cancel hle]
    rw [hpow, ← Nat.mul_assoc, Nat.mul_mod_mul_right]
    exact ⟨_, i, Nat.lt_of_le_of_lt (Nat.mod_le _ _) hm, rfl⟩

/-! ### Numbers -/

namespace Binary64

/-- The place of infinity in the order, at the limit of the finite numbers. -/
@[irreducible]
def infinityRank : Int := unitLimit

theorem infinityRank_eq : infinityRank = unitLimit := by
  rw [infinityRank]

theorem infinityRank_pos : 0 < infinityRank := by
  have hpos := unitLimit_pos
  rw [infinityRank_eq]
  omega

/-- The place of a number in the order, in units. A NaN has no place. -/
def rank? : Binary64 → Option Int
  | .nan => none
  | .infinite negative => some (if negative then -infinityRank else infinityRank)
  | .finite negative m => some (signedUnits negative m)

theorem signedUnits_bounds (negative : Bool) (m : Magnitude) :
    -infinityRank < signedUnits negative m ∧ signedUnits negative m < infinityRank := by
  have hbounded := m.bounded
  rw [infinityRank_eq, signedUnits]
  split <;> omega

variable {x y z : Binary64}

theorem lt_iff : x < y ↔ ∃ a ∈ x.rank?, ∃ b ∈ y.rank?, a < b := by
  have hpos := infinityRank_pos
  show less x y = true ↔ _
  match x, y with
  | .nan, _ | .infinite _, .nan | .finite _ _, .nan => simp [less, rank?]
  | .infinite s, .infinite t =>
    cases s <;> cases t <;> simp [less, rank?] <;> omega
  | .infinite s, .finite t n =>
    have hbounds := signedUnits_bounds t n
    cases s <;> simp [less, rank?] <;> omega
  | .finite s m, .infinite t =>
    have hbounds := signedUnits_bounds s m
    cases t <;> simp [less, rank?] <;> omega
  | .finite s m, .finite t n => simp [less, rank?]

theorem le_iff : x ≤ y ↔ ∃ a ∈ x.rank?, ∃ b ∈ y.rank?, a ≤ b := by
  have hpos := infinityRank_pos
  show lessEq x y = true ↔ _
  match x, y with
  | .nan, _ | .infinite _, .nan | .finite _ _, .nan => simp [lessEq, rank?]
  | .infinite s, .infinite t =>
    cases s <;> cases t <;> simp [lessEq, rank?] <;> omega
  | .infinite s, .finite t n =>
    have hbounds := signedUnits_bounds t n
    cases s <;> simp [lessEq, rank?] <;> omega
  | .finite s m, .infinite t =>
    have hbounds := signedUnits_bounds s m
    cases t <;> simp [lessEq, rank?] <;> omega
  | .finite s m, .finite t n => simp [lessEq, rank?]

theorem lt_iff_of_rank? {a b : Int} (hx : x.rank? = some a) (hy : y.rank? = some b) :
    x < y ↔ a < b := by
  rw [lt_iff, hx, hy]
  simp

theorem le_iff_of_rank? {a b : Int} (hx : x.rank? = some a) (hy : y.rank? = some b) :
    x ≤ y ↔ a ≤ b := by
  rw [le_iff, hx, hy]
  simp

theorem rank?_ofNat (hn : n < 2 ^ 53) : (ofNat n).rank? = some ((n * unitsPerOne : Nat) : Int) := by
  rw [ofNat_eq hn]
  rfl

theorem rank?_zero : (0 : Binary64).rank? = some 0 := by
  show (ofNat 0).rank? = some 0
  rw [rank?_ofNat (by decide), Nat.zero_mul]
  rfl

theorem rank?_neg (x : Binary64) : (-x).rank? = x.rank?.map (- ·) := by
  show (neg x).rank? = _
  cases x with
  | nan => rfl
  | infinite s => cases s <;> simp [rank?, neg]
  | finite s m => cases s <;> simp [rank?, neg, signedUnits]

theorem le_ofNat_iff {z : Int} (hn : n < 2 ^ 53) (h : x.rank? = some z) :
    x ≤ ofNat n ↔ z ≤ (n * unitsPerOne : Nat) :=
  le_iff_of_rank? h (rank?_ofNat hn)

theorem ofNat_le_iff {z : Int} (hn : n < 2 ^ 53) (h : x.rank? = some z) :
    ofNat n ≤ x ↔ (n * unitsPerOne : Nat) ≤ z :=
  le_iff_of_rank? (rank?_ofNat hn) h

theorem le_ofNat_iff_of_whole (hk : k < 2 ^ 53)
    (h : x.rank? = some ((n * unitsPerOne : Nat) : Int)) : x ≤ ofNat k ↔ n ≤ k := by
  rw [le_ofNat_iff hk h, Nat.cast_le, Nat.mul_le_mul_right_iff unitsPerOne_pos]

theorem ofNat_le_iff_of_whole (hk : k < 2 ^ 53)
    (h : x.rank? = some ((n * unitsPerOne : Nat) : Int)) : ofNat k ≤ x ↔ k ≤ n := by
  rw [ofNat_le_iff hk h, Nat.cast_le, Nat.mul_le_mul_right_iff unitsPerOne_pos]

/-- The whole numbers from 0 to 1 are the two bounds. -/
theorem between_iff_of_whole (h : x.rank? = some ((n * unitsPerOne : Nat) : Int)) :
    0 ≤ x ∧ x ≤ 1 ↔ n = 0 ∨ n = 1 := by
  have hlow : 0 ≤ x ↔ 0 ≤ n := ofNat_le_iff_of_whole (by decide) h
  have hhigh : x ≤ 1 ↔ n ≤ 1 := le_ofNat_iff_of_whole (by decide) h
  rw [hlow, hhigh]
  omega

theorem finite_le_ofNat_iff (hn : n < 2 ^ 53) {negative : Bool} {m : Magnitude} :
    .finite negative m ≤ ofNat n ↔ signedUnits negative m ≤ (n * unitsPerOne : Nat) :=
  le_ofNat_iff hn rfl

theorem ofNat_le_finite_iff (hn : n < 2 ^ 53) {negative : Bool} {m : Magnitude} :
    ofNat n ≤ .finite negative m ↔ (n * unitsPerOne : Nat) ≤ signedUnits negative m :=
  ofNat_le_iff hn rfl

theorem le_of_lt (h : x < y) : x ≤ y := by
  obtain ⟨a, ha, b, hb, hab⟩ := lt_iff.1 h
  exact le_iff.2 ⟨a, ha, b, hb, hab.le⟩

theorem le_trans (hxy : x ≤ y) (hyz : y ≤ z) : x ≤ z := by
  obtain ⟨a, ha, b, hb, hab⟩ := le_iff.1 hxy
  obtain ⟨b', hb', c, hc, hbc⟩ := le_iff.1 hyz
  obtain rfl := Option.mem_unique hb hb'
  exact le_iff.2 ⟨a, ha, c, hc, hab.trans hbc⟩

/-- Of two numbers in order the first one is the less one, unless they are the same number. -/
theorem le_of_not_lt (hle : x ≤ y) (hlt : ¬ x < y) : y ≤ x := by
  obtain ⟨a, ha, b, hb, -⟩ := le_iff.1 hle
  exact le_iff.2 ⟨b, hb, a, ha, not_lt.1 fun hab => hlt (lt_iff.2 ⟨a, ha, b, hb, hab⟩)⟩

/-- What is rounded below a whole number is nearest to that one or to a lesser one. -/
theorem nearestNat_round_le (negative : Bool) (hn : n < 2 ^ 53) (hden : 0 < den)
    (h : num ≤ n * unitsPerOne * den) : (round negative num den).nearestNat ≤ n := by
  unfold round
  split
  · have hunits := roundUnits_le_of_le_mul (fitsSignificand_whole hn) hden h
    rw [nearestNat]
    exact roundHalfEven_le_of_le_mul unitsPerOne_pos hunits
  · exact Nat.zero_le n

/-! ### The same number -/

/-- Two numbers are numerically equal. The two zeros are, and a NaN equals nothing. -/
def SameNumber (x y : Binary64) : Prop := x ≤ y ∧ y ≤ x

theorem sameNumber_iff : SameNumber x y ↔ ∃ a, a ∈ x.rank? ∧ a ∈ y.rank? := by
  rw [SameNumber, le_iff, le_iff]
  constructor
  · rintro ⟨⟨a, ha, b, hb, hab⟩, b', hb', a', ha', hba⟩
    obtain rfl := Option.mem_unique ha ha'
    obtain rfl := Option.mem_unique hb hb'
    obtain rfl := hab.antisymm hba
    exact ⟨a, ha, hb⟩
  · rintro ⟨a, hx, hy⟩
    exact ⟨⟨a, hx, a, hy, le_rfl⟩, a, hy, a, hx, le_rfl⟩

/-- Whatever has a place in the order is the same number as itself. -/
theorem sameNumber_self_of_le (h : x ≤ y) : SameNumber y y := by
  obtain ⟨-, -, b, hb, -⟩ := le_iff.1 h
  exact sameNumber_iff.2 ⟨b, hb, hb⟩

end Binary64

end ColorLiteral
