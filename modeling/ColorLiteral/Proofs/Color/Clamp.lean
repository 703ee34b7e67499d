import ColorLiteral.Proofs.Binary64.Bounded
import ColorLiteral.Proofs.Binary64.Order
import ColorLiteral.Proofs.Color.Bytes
import Mathlib.Data.List.Forall2

/-!
# Clamped colors

A clamped channel lies between zero and one whatever it was before, an infinity or a NaN included
(`inUnit_toUnitInterval`). Clamping moves no channel that already lies there, so it happens once
(`toUnitInterval_idem`), and a channel lies between zero and one exactly if clamping gives the same
number (`inUnit_iff_sameNumber`). Bytes and texts are made of clamped channels, so that all views of
a color agree with each other (`Rgba.views_agree`).
-/

namespace ColorLiteral.Rgba

open Binary64 (SameNumber le_of_lt le_trans le_of_not_lt sameNumber_self_of_le)

variable {x : Binary64}

/-! ### Channels -/

/-- The two ends of the interval are clamped to themselves. -/
theorem toUnitInterval_ends : toUnitInterval 0 = 0 ∧ toUnitInterval 1 = 1 := by
  decide +kernel

theorem inUnit_ends : inUnit 0 = true ∧ inUnit 1 = true := by
  decide +kernel

theorem inUnit_iff : inUnit x = true ↔ 0 ≤ x ∧ x ≤ 1 := by
  simp [inUnit]

theorem inUnit_toUnitInterval (x : Binary64) : inUnit (toUnitInterval x) = true := by
  unfold toUnitInterval
  split
  · next hlow =>
    split
    · next hhigh => exact inUnit_iff.2 ⟨le_of_lt hlow, le_of_lt hhigh⟩
    · exact inUnit_ends.2
  · exact inUnit_ends.1

/-- A clamped channel is not clamped any further. -/
theorem toUnitInterval_idem (x : Binary64) :
    toUnitInterval (toUnitInterval x) = toUnitInterval x := by
  by_cases hlow : 0 < x
  · by_cases hhigh : x < 1
    · have hself : toUnitInterval x = x := by rw [toUnitInterval, if_pos hlow, if_pos hhigh]
      rw [hself, hself]
    · have hone : toUnitInterval x = 1 := by rw [toUnitInterval, if_pos hlow, if_neg hhigh]
      rw [hone, toUnitInterval_ends.2]
  · have hzero : toUnitInterval x = 0 := by rw [toUnitInterval, if_neg hlow]
    rw [hzero, toUnitInterval_ends.1]

/-- Clamping keeps exactly the channels between zero and one as the numbers that they are. -/
theorem inUnit_iff_sameNumber : inUnit x = true ↔ SameNumber x (toUnitInterval x) := by
  constructor
  · intro h
    obtain ⟨hzero, hone⟩ := inUnit_iff.1 h
    unfold toUnitInterval
    split
    · split
      · exact sameNumber_self_of_le hzero
      · next hhigh => exact ⟨hone, le_of_not_lt hone hhigh⟩
    · next hlow => exact ⟨le_of_not_lt hzero hlow, hzero⟩
  · rintro ⟨hle, hge⟩
    obtain ⟨hzero, hone⟩ := inUnit_iff.1 (inUnit_toUnitInterval x)
    exact inUnit_iff.2 ⟨le_trans hzero hge, le_trans hle hone⟩

/-! ### Bytes -/

/-- A channel between zero and one has at most the units of one. -/
theorem exists_units_le (h : inUnit x = true) :
    ∃ negative m, x = .finite negative m ∧ m.units ≤ unitsPerOne := by
  obtain ⟨hzero, hone⟩ := inUnit_iff.1 h
  have hfinite := Binary64.isFinite_of_le (n := 1) (by decide) hzero hone
  cases x with
  | nan | infinite => cases hfinite
  | finite negative m =>
    have hlow := (Binary64.ofNat_le_finite_iff (n := 0) (by decide)).1 hzero
    have hhigh := (Binary64.finite_le_ofNat_iff (n := 1) (by decide)).1 hone
    have hunits := Binary64.IsBelow.natAbs_signedUnits negative m
    exact ⟨negative, m, rfl, by omega⟩

theorem byteOfChannel_le (x : Binary64) : byteOfChannel x ≤ 255 := by
  obtain ⟨negative, m, hx, hm⟩ := exists_units_le (inUnit_toUnitInterval x)
  rw [byteOfChannel, hx]
  show (Binary64.mul _ (Binary64.ofNat 255)).nearestNat ≤ 255
  rw [Binary64.ofNat_eq (by decide), Binary64.mul]
  have hproduct : m.units * (255 * unitsPerOne) ≤ 255 * unitsPerOne * unitsPerOne := by
    rewrite [Nat.mul_comm]
    exact Nat.mul_le_mul_left _ hm
  exact Binary64.nearestNat_round_le _ (by decide) unitsPerOne_pos hproduct

theorem byteOfChannel_toUnitInterval (x : Binary64) :
    byteOfChannel (toUnitInterval x) = byteOfChannel x := by
  rw [byteOfChannel, byteOfChannel, toUnitInterval_idem]

/-! ### Views -/

variable (c : Rgba)

theorem toBytes_clamped : c.clamped.toBytes = c.toBytes := by
  simp only [toBytes, channels, clamped, List.map_cons, List.map_nil, byteOfChannel_toUnitInterval]

theorem inGamut_iff : c.inGamut = true ↔ ∀ x ∈ c.channels, inUnit x = true := by
  simp [inGamut, channels, and_assoc]

theorem channels_clamped : c.clamped.channels = c.channels.map toUnitInterval := by
  simp only [channels, clamped, List.map_cons, List.map_nil]

/-- The text of a color is made of eight digits that spell its bytes. -/
theorem exists_digits : ∃ digits, c.toHexAlpha = '#' :: digits ∧ digits.length = 8 ∧
    (∀ d ∈ digits, d ∈ Hex.lowerDigits) ∧ Hex.pairBytes digits = c.toBytes ∧
    c.toHex = '#' :: digits.take 6 := by
  have hlt (x : Binary64) : byteOfChannel x < 256 := Nat.lt_succ_of_le (byteOfChannel_le x)
  obtain ⟨r₁, r₀, hr, hr₁, hr₀, hred⟩ := Hex.exists_hexDigits (hlt c.red)
  obtain ⟨g₁, g₀, hg, hg₁, hg₀, hgreen⟩ := Hex.exists_hexDigits (hlt c.green)
  obtain ⟨b₁, b₀, hb, hb₁, hb₀, hblue⟩ := Hex.exists_hexDigits (hlt c.blue)
  obtain ⟨a₁, a₀, ha, ha₁, ha₀, halpha⟩ := Hex.exists_hexDigits (hlt c.alpha)
  refine ⟨[r₁, r₀, g₁, g₀, b₁, b₀, a₁, a₀], ?_, rfl, ?_, ?_, ?_⟩
  · simp [toHexAlpha, toHex, hr, hg, hb, ha]
  · simp [hr₁, hr₀, hg₁, hg₀, hb₁, hb₀, ha₁, ha₀]
  · simp [Hex.pairBytes, toBytes, channels, hred, hgreen, hblue, halpha]
  · simp [toHex, hr, hg, hb]

/-- All views of a color agree, whatever its channels are. Its clamped form is in the gamut and is
not clamped any further. The color is in the gamut exactly if clamping keeps each of its channels as
the number that it is. Its bytes are those of the clamped form, and its text spells them. -/
theorem views_agree :
    c.clamped.inGamut = true ∧ c.clamped.clamped = c.clamped ∧
    (c.inGamut = true ↔ List.Forall₂ SameNumber c.channels c.clamped.channels) ∧
    (c.toBytes = c.clamped.toBytes ∧ ∀ b ∈ c.toBytes, b ≤ 255) ∧
    ∃ digits, c.toHexAlpha = '#' :: digits ∧ digits.length = 8 ∧
      (∀ d ∈ digits, d ∈ Hex.lowerDigits) ∧ Hex.pairBytes digits = c.toBytes ∧
      c.toHex = c.toHexAlpha.take 7 := by
  refine ⟨?_, ?_, ?_, ⟨(toBytes_clamped c).symm, ?_⟩, ?_⟩
  · rw [inGamut_iff, channels_clamped]
    exact List.forall_mem_map.2 fun x _ => inUnit_toUnitInterval x
  · simp only [clamped, toUnitInterval_idem]
  · rw [inGamut_iff, channels_clamped, List.forall₂_map_right_iff, List.forall₂_same]
    exact forall₂_congr fun _ _ => inUnit_iff_sameNumber
  · exact List.forall_mem_map.2 fun x _ => byteOfChannel_le x
  · obtain ⟨digits, halpha, hlength, hlower, hbytes, hhex⟩ := exists_digits c
    refine ⟨digits, halpha, hlength, hlower, hbytes, ?_⟩
    rw [hhex, halpha, List.take_succ_cons]

end ColorLiteral.Rgba
