import ColorLiteral.Proofs.Literal.Reading

/-!
# What a channel is read as

Every expression has one outcome as a channel, and the integer that it spells decides which
(`channelByte_eq_iff`): a byte is read, an integer of less than 64 bits that is no byte is reported
with its value, and everything else is no number of a channel. Each error points at the whole
expression.

How many digits a literal has makes no difference. The check of their number only spares the work on
large numbers: a literal that it turns down spells a number beyond the limit.
-/

namespace ColorLiteral

theorem Expr.SpellsInteger.unique {e : Expr} {z z' : Int} (h : e.SpellsInteger z)
    (h' : e.SpellsInteger z') : z = z' := by
  cases h with
  | literal ht =>
    cases h' with
    | literal ht' => rw [ht.unique ht']
  | negated ht =>
    cases h' with
    | negated ht' => rw [ht.unique ht']

namespace Literal

variable {v : Variant} {e : Expr} {outcome : Except ColorError Nat}

/-- What an expression is as a channel. -/
inductive ReadsChannel (v : Variant) (e : Expr) : Except ColorError Nat → Prop
  | byte {n : Nat} (he : e.SpellsInteger n) (hn : n ≤ 255) : ReadsChannel v e (.ok n)
  | noByte {z : Int} (he : e.SpellsInteger z) (hz : z < 0 ∨ 255 < z) (hlimit : z.natAbs < 2 ^ 63) :
      ReadsChannel v e
        (.error (.located e.span (.valueOutOfRange (channelRange v) (.ofInt z) .channel)))
  | tooLarge {z : Int} (he : e.SpellsInteger z) (hlimit : 2 ^ 63 ≤ z.natAbs) :
      ReadsChannel v e (.error (.located e.span (.invalidNumericLiteral v.signature)))
  | noInteger (he : ∀ z, ¬ e.SpellsInteger z) :
      ReadsChannel v e (.error (.located e.span (.invalidNumericLiteral v.signature)))

theorem integerLimit_eq : integerLimit = 2 ^ 63 - 1 := rfl

theorem channelByte_of_readsChannel (h : ReadsChannel v e outcome) : channelByte v e = outcome := by
  cases h with
  | byte he hn => exact channelByte_eq_ok_iff.2 ⟨he, hn⟩
  | noByte he hz hlimit => exact channelByte_of_no_byte he (Nat.le_pred_of_lt hlimit) hz
  | tooLarge he hlimit =>
    refine channelByte_of_no_integer fun z hz => ?_
    rw [hz.unique he, integerLimit_eq]
    omega
  | noInteger he => exact channelByte_of_no_integer fun z hz => absurd hz (he z)

theorem exists_readsChannel (v : Variant) (e : Expr) : ∃ outcome, ReadsChannel v e outcome := by
  by_cases hinteger : ∃ z, e.SpellsInteger z
  · obtain ⟨z, hz⟩ := hinteger
    by_cases hlimit : z.natAbs < 2 ^ 63
    · by_cases hrange : z < 0 ∨ 255 < z
      · exact ⟨_, .noByte hz hrange hlimit⟩
      · obtain ⟨n, rfl⟩ := Int.eq_ofNat_of_zero_le (by omega : 0 ≤ z)
        exact ⟨_, .byte hz (by omega)⟩
    · exact ⟨_, .tooLarge hz (Nat.not_lt.1 hlimit)⟩
  · exact ⟨_, .noInteger fun z hz => hinteger ⟨z, hz⟩⟩

/-- A literal with more digits than the limit, zeros in front apart, spells a number beyond it. -/
theorem lt_of_length_significant {t : Text} {n : Nat} (ht : IsDecimal t n)
    (hlong : (Text.ofNat integerLimit).length < ((digitText t).dropWhile (· == '0')).length) :
    integerLimit < n := by
  obtain ⟨-, hdigit, rfl⟩ := isDecimal_iff.1 ht
  by_contra hlimit
  exact absurd (length_significant_le hdigit (Nat.not_lt.1 hlimit)) (Nat.not_le.2 hlong)

/-- What an expression is as a channel, by the integer that it spells. A literal is read exactly if
its number is below `2 ^ 63`; counting its digits, zeros in front apart, turns down no other. -/
theorem channelByte_eq_iff (v : Variant) :
    (∀ e outcome, channelByte v e = outcome ↔ ReadsChannel v e outcome) ∧
    ∀ t n, IsDecimal t n →
      readInteger? t = (if n ≤ 2 ^ 63 - 1 then some n else none) ∧
      ((Text.ofNat (2 ^ 63 - 1)).length <
          ((Text.trim (t.filter (· ≠ '_'))).dropWhile (· == '0')).length →
        2 ^ 63 - 1 < n) := by
  refine ⟨fun e outcome => ⟨?_, channelByte_of_readsChannel⟩, fun t n ht => ⟨?_, ?_⟩⟩
  · rintro rfl
    obtain ⟨outcome, h⟩ := exists_readsChannel v e
    rwa [channelByte_of_readsChannel h]
  · rw [ht.readInteger?_eq, integerLimit_eq]
  · exact lt_of_length_significant ht

/-- Blanks, underscores and zeros count for nothing, and a sign is part of the value that is
reported. A digit of another script is none, and the number one beyond the limit is turned down for
its value, not for its length. -/
theorem channelByte_eq_iff_written :
    channelByte .rgb (.integer " 0_0_12\t".toList ⟨0, 8⟩) = .ok 12 ∧
    channelByte .rgb (.prefixed "-3_00".toList ⟨0, 5⟩ ['-'] (.integer "3_00".toList ⟨1, 5⟩)) =
      .error (.located ⟨0, 5⟩
        (.valueOutOfRange "RGB components must be between 0 and 255" (.ofInt (-300)) .channel)) ∧
    channelByte .rgb (.integer "1\u0663".toList ⟨0, 2⟩) =
      .error (.located ⟨0, 2⟩ (.invalidNumericLiteral Variant.rgb.signature)) ∧
    channelByte .rgb (.integer "09223372036854775808".toList ⟨0, 20⟩) =
      .error (.located ⟨0, 20⟩ (.invalidNumericLiteral Variant.rgb.signature)) ∧
    readInteger? "09223372036854775808".toList = none := by
  have hblank (c : Char) (hc : Text.isBlank c = true) : Text.IsBlanks [c] :=
    List.forall_mem_singleton.2 hc
  have hnil : Text.IsBlanks [] := List.forall_mem_nil _
  have hsmall : IsDecimal " 0_0_12\t".toList 12 :=
    ⟨[' '], "0012".toList, ['\t'], by decide, hblank _ (by decide), by decide, hblank _ (by decide)⟩
  have hnegated : IsDecimal "3_00".toList 300 :=
    ⟨[], "300".toList, [], by decide, hnil, by decide, hnil⟩
  have hlarge : IsDecimal "09223372036854775808".toList (2 ^ 63) :=
    ⟨[], "09223372036854775808".toList, [], by decide, hnil, by decide +kernel, hnil⟩
  have hother : ∀ z, ¬ (Expr.integer "1\u0663".toList ⟨0, 2⟩).SpellsInteger z := by
    rintro z (⟨ht⟩ | -)
    exact absurd ((isDecimal_iff.1 ht).isDigit (Char.ofNat 0x663) (by decide)) (by decide)
  obtain ⟨hread, hinteger⟩ := channelByte_eq_iff .rgb
  refine ⟨(hread _ _).2 (.byte (.literal hsmall) (by decide)),
    (hread _ _).2 (.noByte (.negated hnegated) (by decide) (by decide)),
    (hread _ _).2 (.noInteger hother), (hread _ _).2 (.tooLarge (.literal hlarge) (by decide)), ?_⟩
  rw [(hinteger _ _ hlarge).1]
  rfl

end Literal

end ColorLiteral
