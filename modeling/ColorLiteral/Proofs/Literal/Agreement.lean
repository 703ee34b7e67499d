import ColorLiteral.Proofs.Literal.Notation
import ColorLiteral.Proofs.Literal.Reading

/-!
# The readers of integers and of numbers agree

An integer literal is read twice over: digit by digit as a channel, and rounded as a number. Digits
are a numeral with no fraction and no exponent, and up to `2 ^ 53` rounding changes no integer, so
that both readers find the same number (`Literal.numbers_agree`). A minus sign turns zero into the
other zero, which is the same number.
-/

namespace ColorLiteral

open Literal (IsDecimal readNumber?)

/-- Decimal digits are a numeral. -/
theorem Literal.IsDecimal.exists_numeral {t : Text} {n : Nat} (ht : IsDecimal t n) :
    ∃ m : Written.Numeral, Literal.digitText t = m.bare ∧ m.value = n := by
  obtain ⟨hne, hdigit, hvalue⟩ := Literal.isDecimal_iff.1 ht
  obtain ⟨c, rest, htext⟩ := List.exists_cons_of_ne_nil hne
  rw [htext] at hdigit hvalue
  obtain ⟨hfirst, hrest⟩ := List.forall_mem_cons.1 hdigit
  let whole : Written.Digits := ⟨c, rest, hfirst, fun d hd => .inl (hrest d hd)⟩
  have hbare : whole.bare = c :: rest := by
    refine congrArg (c :: ·) (List.filter_eq_self.2 fun d hd => decide_eq_true ?_)
    rintro rfl
    exact absurd (hrest '_' hd) (by decide)
  refine ⟨⟨whole, none, none⟩, ?_, ?_⟩
  · rw [htext, ← hbare]
    exact (List.append_nil _).symm
  · have hwhole : whole.value = n := by rw [Written.Digits.value, hbare, hvalue]
    simp [Written.Numeral.value, Written.Numeral.fractionValue, Written.Numeral.power, hwhole]

/-- Decimal digits are read as the number that stands for what they spell. -/
theorem Literal.IsDecimal.exists_readNumber? {t : Text} {n : Nat} (ht : IsDecimal t n) :
    ∃ x, readNumber? t = some x ∧ Binary64.IsRounded x n := by
  obtain ⟨m, hbare, hvalue⟩ := ht.exists_numeral
  rw [← hvalue]
  exact m.exists_readNumber? hbare

/-- An expression that spells a small integer spells the number in its place. -/
theorem Expr.SpellsInteger.exists_number {e : Expr} {z : Int} (h : e.SpellsInteger z)
    (hz : z.natAbs < 2 ^ 53) :
    ∃ x, e.SpellsNumber x ∧ x.rank? = some (z * unitsPerOne) := by
  cases h with
  | literal ht =>
    obtain ⟨x, hread, hrounded⟩ := ht.exists_readNumber?
    exact ⟨x, .literal rfl hread, hrounded.rank?_eq hz⟩
  | negated ht =>
    obtain ⟨x, hread, hrounded⟩ := ht.exists_readNumber?
    rw [Int.natAbs_neg] at hz
    refine ⟨-x, .negated rfl hread, ?_⟩
    rw [Binary64.rank?_neg, hrounded.rank?_eq hz, Option.map_some, Int.neg_mul]
    push_cast
    rfl

namespace Literal

variable {v : Variant} {e : Expr} {n : Nat}

/-- What is read as a channel is read as the same number, and as an alpha if it is 0 or 1. -/
theorem numbers_agree (h : channelByte v e = .ok n) :
    (∃ x, signedNumber v e = .ok x ∧ x.value? = some (n : ℚ)) ∧
    ((∃ x, alphaValue v e = .ok x) ↔ n = 0 ∨ n = 1) := by
  obtain ⟨hspells, hbyte⟩ := channelByte_eq_ok_iff.1 h
  have hsmall : (n : Int).natAbs < 2 ^ 53 := by omega
  obtain ⟨x, hnumber, hrank⟩ := hspells.exists_number hsmall
  refine ⟨⟨x, signedNumber_eq_ok_iff.2 hnumber, Binary64.value?_of_rank? hrank hsmall⟩, ?_⟩
  rw [← Int.natCast_mul] at hrank
  rw [alphaValue_of_spellsNumber hnumber, ← Binary64.between_iff_of_whole hrank]
  split
  · next hrange => exact iff_of_true ⟨x, rfl⟩ hrange
  · next hrange => exact iff_of_false (fun ⟨y, hy⟩ => nomatch hy) hrange

theorem numbers_agree_negative_zero : ∃ e : Expr,
    e = .prefixed "-0_0".toList ⟨0, 4⟩ ['-'] (.integer "0_0".toList ⟨1, 4⟩) ∧
    channelByte .rgb e = .ok 0 ∧
    (∃ x, signedNumber .rgb e = .ok x ∧ x.value? = some ((0 : Nat) : ℚ)) ∧
    ((∃ x, alphaValue .rgb e = .ok x) ↔ 0 = 0 ∨ 0 = 1) := by
  have hread : channelByte .rgb (.prefixed "-0_0".toList ⟨0, 4⟩ ['-']
      (.integer "0_0".toList ⟨1, 4⟩)) = .ok 0 := by
    decide +kernel
  exact ⟨_, rfl, hread, numbers_agree hread⟩

end Literal

end ColorLiteral
