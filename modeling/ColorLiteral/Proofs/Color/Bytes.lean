import ColorLiteral.Proofs.Binary64.Rounding
import ColorLiteral.Proofs.Color.Hexadecimal
import Mathlib.Data.Bool.AllAny

/-!
# Colors of bytes

A color whose channels are bytes over 255 gives the bytes back (`byteOfChannel_channelOfByte`): the
quotient and the product that leads back to the byte are each off by one part in `2 ^ 53` at most
(`IsShareOf`), so that the product is nowhere near half a unit away from the byte. The text of such
a color has eight digits that spell it (`Hex.decode_toHexAlpha`), and decoding gives no other colors
(`Hex.isOfBytes_of_decode`).
-/

namespace ColorLiteral

namespace Rgba

/-! ### Bytes and channels -/

variable {u b q r : Nat}

/-- A count of units, `u` to the one, that is a byte over 255 up to one rounding. -/
structure IsShareOf (u b q : Nat) : Prop where
  le : 2 ^ 53 * (q * 255) ≤ (2 ^ 53 + 1) * (b * u)
  ge : (2 ^ 53 - 1) * (b * u) ≤ 2 ^ 53 * (q * 255)

namespace IsShareOf

/-- A share that is not below one is as good as one. -/
theorem one (h : IsShareOf u b q) (hb : b < 256) (hu : u ≤ q) : IsShareOf u b u := by
  have hbyte : b * u ≤ 255 * u := Nat.mul_le_mul_right _ (by omega)
  have hle : 2 ^ 53 * (u * 255) ≤ 2 ^ 53 * (q * 255) :=
    Nat.mul_le_mul_left _ (Nat.mul_le_mul_right _ hu)
  exact ⟨Nat.le_trans hle h.le, by omega⟩

/-- A share is rounded to its byte, also after its product with 255 has been rounded. -/
theorem roundHalfEven_eq (h : IsShareOf u b q) (hu : 0 < u) (hb : b < 256)
    (hle : 2 ^ 53 * r ≤ (2 ^ 53 + 1) * (q * 255))
    (hge : (2 ^ 53 - 1) * (q * 255) ≤ 2 ^ 53 * r) : roundHalfEven r u = b := by
  have hbyte : b * u ≤ 255 * u := Nat.mul_le_mul_right _ (by omega)
  have hle' := h.le
  have hge' := h.ge
  exact ColorLiteral.roundHalfEven_eq (by omega) (by omega)

end IsShareOf

theorem large_unitsPerOne : 2 ^ 70 ≤ unitsPerOne := by
  decide +kernel

theorem unitsPerOne_le_unitLimit : 2 ^ 70 * unitsPerOne ≤ unitLimit := by
  decide +kernel

theorem exists_channelOfByte (hpos : 0 < b) (hb : b < 256) :
    ∃ m : Magnitude, channelOfByte b = .finite false m ∧ IsShareOf unitsPerOne b m.units := by
  have hlarge := large_unitsPerOne
  have hunits : 0 < unitsPerOne := by omega
  have hmul : unitsPerOne ≤ b * unitsPerOne := Nat.le_mul_of_pos_left _ hpos
  have hquotient : 2 ^ 52 * (255 * unitsPerOne) ≤ b * unitsPerOne * unitsPerOne := by
    rw [← Nat.mul_assoc]
    exact Nat.mul_le_mul_right _ (by omega)
  obtain ⟨hle, hge⟩ := roundUnits_bounds (by omega : 0 < 255 * unitsPerOne) hquotient
  have hshare : IsShareOf unitsPerOne b
      (roundUnits (b * unitsPerOne * unitsPerOne) (255 * unitsPerOne)) := by
    constructor
    · refine Nat.le_of_mul_le_mul_right ?_ hunits
      simpa only [Nat.mul_assoc] using hle
    · refine Nat.le_of_mul_le_mul_right ?_ hunits
      simpa only [Nat.mul_assoc] using hge
  have hlt : roundUnits (b * unitsPerOne * unitsPerOne) (255 * unitsPerOne) < unitLimit := by
    have hlimit := unitsPerOne_le_unitLimit
    have hbyte : b * unitsPerOne ≤ 255 * unitsPerOne := Nat.mul_le_mul_right _ (by omega)
    have := hshare.le
    omega
  refine ⟨⟨_, fitsSignificand_roundUnits _ _, hlt⟩, ?_, hshare⟩
  rw [channelOfByte]
  show Binary64.ofNat b / Binary64.ofNat 255 = _
  rw [Binary64.ofNat_div_ofNat (by omega) (by omega) (by omega), Binary64.round_of_lt _ hlt]

/-- Clamping a channel leaves it a share of its byte. -/
theorem exists_toUnitInterval {m : Magnitude} (hpos : 0 < b) (hb : b < 256)
    (hm : IsShareOf unitsPerOne b m.units) :
    ∃ m' : Magnitude, toUnitInterval (.finite false m) = .finite false m' ∧
      IsShareOf unitsPerOne b m'.units := by
  have hzero : (0 : Binary64) < .finite false m := by
    refine (Binary64.ofNat_lt_finite_iff (n := 0) (by omega) m).2 ?_
    have hmul : unitsPerOne ≤ b * unitsPerOne := Nat.le_mul_of_pos_left _ hpos
    have hlarge := large_unitsPerOne
    have hge := hm.ge
    omega
  rw [toUnitInterval, if_pos hzero]
  by_cases hone : .finite false m < (1 : Binary64)
  · rw [if_pos hone]
    exact ⟨m, rfl, hm⟩
  · rw [if_neg hone]
    have hunits := mt (Binary64.finite_lt_ofNat_iff (n := 1) (by omega) m).2 hone
    refine ⟨_, Binary64.ofNat_eq (n := 1) (by omega), ?_⟩
    rewrite [Nat.one_mul] at hunits
    show IsShareOf unitsPerOne b (1 * unitsPerOne)
    rewrite [Nat.one_mul]
    exact hm.one hb (Nat.le_of_not_lt hunits)

theorem byteOfChannel_channelOfByte (hb : b < 256) : byteOfChannel (channelOfByte b) = b := by
  by_cases hzero : b = 0
  · subst hzero
    decide +kernel
  have hpos : 0 < b := Nat.pos_of_ne_zero hzero
  obtain ⟨m, hm, hshare⟩ := exists_channelOfByte hpos hb
  obtain ⟨m', hm', hshare'⟩ := exists_toUnitInterval hpos hb hshare
  have hlarge := large_unitsPerOne
  have hlimit := unitsPerOne_le_unitLimit
  have hunits : 0 < unitsPerOne := by omega
  have hmul : unitsPerOne ≤ b * unitsPerOne := Nat.le_mul_of_pos_left _ hpos
  have hbyte : b * unitsPerOne ≤ 255 * unitsPerOne := Nat.mul_le_mul_right _ (by omega)
  have hle := hshare'.le
  have hge := hshare'.ge
  -- The product is rounded once more.
  have hquotient : 2 ^ 52 * unitsPerOne ≤ m'.units * 255 * unitsPerOne :=
    Nat.mul_le_mul_right _ (by omega)
  obtain ⟨hle', hge'⟩ := roundUnits_bounds hunits hquotient
  have hupper : 2 ^ 53 * roundUnits (m'.units * 255 * unitsPerOne) unitsPerOne ≤
      (2 ^ 53 + 1) * (m'.units * 255) := by
    refine Nat.le_of_mul_le_mul_right ?_ hunits
    simpa only [Nat.mul_assoc] using hle'
  have hlower : (2 ^ 53 - 1) * (m'.units * 255) ≤
      2 ^ 53 * roundUnits (m'.units * 255 * unitsPerOne) unitsPerOne := by
    refine Nat.le_of_mul_le_mul_right ?_ hunits
    simpa only [Nat.mul_assoc] using hge'
  have hlt : roundUnits (m'.units * 255 * unitsPerOne) unitsPerOne < unitLimit := by omega
  have hproduct : Binary64.finite false m' * 255 = .finite false
      ⟨roundUnits (m'.units * 255 * unitsPerOne) unitsPerOne, fitsSignificand_roundUnits _ _,
        hlt⟩ := by
    show _ * Binary64.ofNat 255 = _
    rw [Binary64.finite_mul_ofNat m' (by omega), ← Nat.mul_assoc, Binary64.round_of_lt _ hlt]
  have hchannel : toUnitInterval (channelOfByte b) = .finite false m' := by rw [hm, hm']
  -- The closing `rfl` of `rw` would evaluate `unitsPerOne`.
  rewrite [byteOfChannel, hchannel, hproduct, Binary64.nearestNat]
  exact hshare'.roundHalfEven_eq hunits hb hupper hlower

theorem channelOfByte_255 : channelOfByte 255 = 1 := by
  decide +kernel

/-! ### Colors -/

/-- A color whose channels are bytes over 255. -/
inductive IsOfBytes : Rgba → Prop
  | mk {red green blue alpha : Nat} (hred : red < 256) (hgreen : green < 256) (hblue : blue < 256)
      (halpha : alpha < 256) : IsOfBytes (.ofBytes red green blue alpha)

end Rgba

namespace Hex

/-- The digits that are written. -/
def lowerDigits : Text := "0123456789abcdef"

/-- `#` and eight lower-case digits. -/
def IsLongText (t : Text) : Prop :=
  ∃ digits, t = '#' :: digits ∧ digits.length = 8 ∧ ∀ c ∈ digits, c ∈ lowerDigits

/-- Two written digits that spell a byte. -/
def ArePairOf (b : Nat) : Text → Prop
  | [high, low] => high ∈ lowerDigits ∧ low ∈ lowerDigits ∧
      digitValue high * 16 + digitValue low = b
  | _ => False

instance (b : Nat) : DecidablePred (ArePairOf b)
  | [high, low] => inferInstanceAs (Decidable (high ∈ lowerDigits ∧ low ∈ lowerDigits ∧
      digitValue high * 16 + digitValue low = b))
  | [] | [_] | _ :: _ :: _ :: _ => inferInstanceAs (Decidable False)

theorem arePairOf_hexDigits : ∀ b < 256, ArePairOf b (Text.hexDigits 2 b) := by
  decide +kernel

theorem exists_hexDigits {b : Nat} (hb : b < 256) : ∃ high low, Text.hexDigits 2 b = [high, low] ∧
    high ∈ lowerDigits ∧ low ∈ lowerDigits ∧ digitValue high * 16 + digitValue low = b := by
  have hpair := arePairOf_hexDigits b hb
  generalize Text.hexDigits 2 b = digits at hpair
  match digits, hpair with
  | [high, low], hpair => exact ⟨high, low, rfl, hpair⟩

theorem isDigit_of_mem_lowerDigits {c : Char} (h : c ∈ lowerDigits) : IsDigit c :=
  List.mem_append_left "ABCDEF".toList h

variable {color : Rgba}

/-- A color of bytes is written with eight digits that spell it. -/
theorem exists_toHexAlpha (h : color.IsOfBytes) : ∃ digits, color.toHexAlpha = '#' :: digits ∧
    digits.length = 8 ∧ (∀ c ∈ digits, c ∈ lowerDigits) ∧ SpellsDigits digits color := by
  obtain ⟨hred, hgreen, hblue, halpha⟩ := h
  obtain ⟨r₁, r₀, hr, hr₁, hr₀, rfl⟩ := exists_hexDigits hred
  obtain ⟨g₁, g₀, hg, hg₁, hg₀, rfl⟩ := exists_hexDigits hgreen
  obtain ⟨b₁, b₀, hb, hb₁, hb₀, rfl⟩ := exists_hexDigits hblue
  obtain ⟨a₁, a₀, ha, ha₁, ha₀, rfl⟩ := exists_hexDigits halpha
  have hlower : ∀ c ∈ [r₁, r₀, g₁, g₀, b₁, b₀, a₁, a₀], c ∈ lowerDigits := by
    simp [hr₁, hr₀, hg₁, hg₀, hb₁, hb₀, ha₁, ha₀]
  refine ⟨[r₁, r₀, g₁, g₀, b₁, b₀, a₁, a₀], ?_, rfl, hlower, ?_, ?_, _, _, _, _, rfl, rfl⟩
  · simp [Rgba.toHexAlpha, Rgba.toHex, Rgba.ofBytes, Rgba.byteOfChannel_channelOfByte hred,
      Rgba.byteOfChannel_channelOfByte hgreen, Rgba.byteOfChannel_channelOfByte hblue,
      Rgba.byteOfChannel_channelOfByte halpha, hr, hg, hb, ha]
  · exact fun c hc => isDigit_of_mem_lowerDigits (hlower c hc)
  · simp

theorem isLongText_toHexAlpha (h : color.IsOfBytes) : IsLongText color.toHexAlpha := by
  obtain ⟨digits, heq, hlength, hlower, -⟩ := exists_toHexAlpha h
  exact ⟨digits, heq, hlength, hlower⟩

/-- A color of bytes is read back from its text. -/
theorem decode_toHexAlpha (h : color.IsOfBytes) : decode color.toHexAlpha = .ok color := by
  obtain ⟨digits, heq, -, -, hspells⟩ := exists_toHexAlpha h
  refine decode_eq_ok_iff.2 (spells_iff.1 ⟨[], ['#'], digits, [], ?_, ?_, by decide, ?_, hspells⟩)
  · simp [heq]
  · exact List.forall_mem_nil _
  · exact List.forall_mem_nil _

/-! ### Decoded colors -/

theorem digitValue_lt {c : Char} (h : IsDigit c) : digitValue c < 16 := by
  have hall : ∀ c ∈ digitChars, digitValue c < 16 := List.all_iff_forall_prop.1 (by decide)
  exact hall c h

theorem pairBytes_lt {digits : Text} (h : ∀ c ∈ digits, IsDigit c) :
    ∀ b ∈ pairBytes digits, b < 256 := by
  fun_induction pairBytes digits with
  | case1 high low rest ih =>
    obtain ⟨hhigh, hrest⟩ := List.forall_mem_cons.1 h
    obtain ⟨hlow, hrest⟩ := List.forall_mem_cons.1 hrest
    have := digitValue_lt hhigh
    have := digitValue_lt hlow
    exact List.forall_mem_cons.2 ⟨by omega, ih hrest⟩
  | case2 => exact List.forall_mem_nil _

theorem isDigit_fullForm {digits : Text} (h : ∀ c ∈ digits, IsDigit c) :
    ∀ c ∈ fullForm digits, IsDigit c := by
  intro c hc
  rw [fullForm, List.mem_append] at hc
  rcases hc with hc | hc
  · split at hc
    · obtain ⟨d, hd, hc⟩ := List.mem_flatMap.1 hc
      obtain rfl : c = d := by simpa using hc
      exact h c hd
    · exact h c hc
  · split at hc
    · obtain rfl : c = 'F' := by simpa using hc
      decide
    · cases hc

theorem isOfBytes_of_decode {t : Text} (h : decode t = .ok color) : color.IsOfBytes := by
  have hspells := decode_eq_ok_iff.1 h
  obtain ⟨red, green, blue, alpha, hbytes, rfl⟩ := hspells.bytes
  have hlt := pairBytes_lt (isDigit_fullForm hspells.isDigit)
  rw [hbytes] at hlt
  exact .mk (hlt _ (by simp)) (hlt _ (by simp)) (hlt _ (by simp)) (hlt _ (by simp))

end Hex

end ColorLiteral
