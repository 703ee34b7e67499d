import ColorLiteral.Literal
import ColorLiteral.Proofs.Text.Trim
import ColorLiteral.Proofs.Token.Lexeme
import Mathlib.Data.Nat.Digits.Lemmas

/-!
# Decimal integers

The integers that are read are the non-empty texts of ASCII digits up to the limit, each with the
number that its digits spell, whatever underscores and blanks stand in and around them
(`readInteger?_eq_some_iff`). Zeros in front count for nothing, and a text that is too long without
them spells a number beyond the limit, so that the check of the length never refuses a number that
fits.
-/

namespace ColorLiteral

namespace Text

theorem valueInBase_eq_ofDigits (base : Nat) (digits : List Nat) :
    valueInBase base digits = Nat.ofDigits base digits.reverse := by
  rw [valueInBase, List.foldl_eq_foldr_reverse, Nat.ofDigits_eq_foldr]
  congr 1
  funext digit value
  rw [Nat.mul_comm, Nat.add_comm]
  rfl

/-- The value of an ASCII digit. -/
def digitOf (c : Char) : Nat := c.toNat - '0'.toNat

theorem filterMap_asciiDigitValue? {t : Text} (h : ∀ c ∈ t, c.isDigit = true) :
    t.filterMap asciiDigitValue? = t.map digitOf := by
  rw [← List.filterMap_eq_map]
  apply List.filterMap_congr
  intro c hc
  simp [asciiDigitValue?, h c hc, digitOf]

/-- The number that decimal digits spell. -/
def decimalValue (t : Text) : Nat := Nat.ofDigits 10 (t.map digitOf).reverse

theorem decimalValue_dropWhile_zero (t : Text) :
    decimalValue (t.dropWhile (· == '0')) = decimalValue t := by
  induction t with
  | nil => rfl
  | cons c t ih =>
    rw [List.dropWhile_cons]
    split
    · next hc =>
      obtain rfl : c = '0' := by simpa using hc
      rw [ih, decimalValue, decimalValue, List.map_cons]
      exact (Nat.ofDigits_reverse_zero_cons _).symm
    · rfl

/-- Digits without a zero in front are those of a large number. -/
theorem pow_length_le_ofDigits {digit : Nat} (hne : digit ≠ 0) (digits : List Nat) :
    10 ^ digits.length ≤ Nat.ofDigits 10 (digit :: digits).reverse := by
  rw [Nat.ofDigits_reverse_cons]
  calc 10 ^ digits.length = 10 ^ digits.length * 1 := (Nat.mul_one _).symm
    _ ≤ 10 ^ digits.length * digit := Nat.mul_le_mul_left _ (Nat.pos_of_ne_zero hne)
    _ ≤ _ := Nat.le_add_left _ _

theorem le_decimalValue {c : Char} {t : Text} (hc : c.isDigit = true) (hzero : c ≠ '0') :
    10 ^ t.length ≤ decimalValue (c :: t) := by
  have hdigit : digitOf c ≠ 0 := by
    intro h
    apply hzero
    simp only [Char.isDigit, Bool.and_eq_true, decide_eq_true_eq, ge_iff_le,
      UInt32.le_iff_toNat_le] at hc
    have hval : c.val.toNat = '0'.val.toNat := Nat.le_antisymm (Nat.sub_eq_zero_iff_le.1 h) hc.1
    exact Char.ext (UInt32.toNat_inj.1 hval)
  have hlow := pow_length_le_ofDigits hdigit (t.map digitOf)
  rwa [List.length_map] at hlow

/-- A text is made of ASCII digits, at least one, that spell a number. -/
structure IsDigitsOf (t : Text) (n : Nat) : Prop where
  ne_nil : t ≠ []
  isDigit : ∀ c ∈ t, c.isDigit = true
  value_eq : decimalValue t = n

instance decidableIsDigitsOf (t : Text) (n : Nat) : Decidable (t.IsDigitsOf n) :=
  decidable_of_iff (t ≠ [] ∧ t.all Char.isDigit = true ∧ decimalValue t = n)
    ⟨fun ⟨hne, hdigits, hvalue⟩ => ⟨hne, List.all_eq_true.1 hdigits, hvalue⟩,
      fun ⟨hne, hdigits, hvalue⟩ => ⟨hne, List.all_eq_true.2 hdigits, hvalue⟩⟩

theorem IsDigitsOf.isSolid {t : Text} {n : Nat} (h : t.IsDigitsOf n) : t.IsSolid :=
  isSolid_of_blankFree h.ne_nil fun c hc =>
    isBlank_eq_false_of_isDecimalDigit (isDecimalDigit_of_isDigit (h.isDigit c hc))

end Text

namespace Literal

/-- The text of a literal spells a number: apart from underscores it consists of decimal digits with
blanks in front of them and behind them. -/
def IsDecimal (t : Text) (n : Nat) : Prop :=
  ∃ before digits behind : Text, t.filter (· ≠ '_') = before ++ (digits ++ behind) ∧
    before.IsBlanks ∧ digits.IsDigitsOf n ∧ behind.IsBlanks

theorem isDecimal_iff {t : Text} {n : Nat} : IsDecimal t n ↔ (digitText t).IsDigitsOf n := by
  constructor
  · rintro ⟨before, digits, behind, htext, hbefore, hdigits, hbehind⟩
    rwa [digitText, htext, Text.trim_between hbefore hdigits.isSolid hbehind]
  · intro h
    obtain ⟨before, behind, hbefore, hbehind, htext⟩ :=
      Text.exists_eq_trim (t.filter (· ≠ '_'))
    exact ⟨before, digitText t, behind, htext, hbefore, h, hbehind⟩

theorem IsDecimal.unique {t : Text} {n m : Nat} (hn : IsDecimal t n) (hm : IsDecimal t m) :
    n = m :=
  (isDecimal_iff.1 hn).value_eq.symm.trans (isDecimal_iff.1 hm).value_eq

theorem length_ofNat_integerLimit : (Text.ofNat integerLimit).length = 19 := by
  decide +kernel

/-- A number within the limit has no more digits than the limit. -/
theorem length_significant_le {t : Text} (hdigit : ∀ c ∈ t, c.isDigit = true)
    (hlimit : Text.decimalValue t ≤ integerLimit) :
    (t.dropWhile (· == '0')).length ≤ (Text.ofNat integerLimit).length := by
  rw [length_ofNat_integerLimit]
  rw [← Text.decimalValue_dropWhile_zero] at hlimit
  cases hsignificant : t.dropWhile (· == '0') with
  | nil => exact Nat.zero_le _
  | cons c rest =>
    rw [hsignificant] at hlimit
    have hmem : c ∈ t := (List.dropWhile_suffix _).subset (hsignificant ▸ List.mem_cons_self ..)
    have hzero : c ≠ '0' := by
      have := List.head?_dropWhile_not (· == '0') t
      simpa [hsignificant] using this
    have hpow : 10 ^ rest.length < 10 ^ 19 :=
      calc 10 ^ rest.length ≤ _ := Text.le_decimalValue (hdigit c hmem) hzero
        _ ≤ integerLimit := hlimit
        _ < 10 ^ 19 := by decide
    exact (Nat.pow_lt_pow_iff_right (by decide)).1 hpow

/-- The length is only checked to spare the work on large numbers. -/
theorem IsDecimal.readInteger?_eq {t : Text} {n : Nat} (ht : IsDecimal t n) :
    readInteger? t = if n ≤ integerLimit then some n else none := by
  obtain ⟨hne, hdigit, rfl⟩ := isDecimal_iff.1 ht
  have hsignificant : ∀ c ∈ (digitText t).dropWhile (· == '0'), c.isDigit = true :=
    fun c hc => hdigit c ((List.dropWhile_suffix _).subset hc)
  have hvalue : Text.valueInBase 10 (((digitText t).dropWhile (· == '0')).filterMap
      Text.asciiDigitValue?) = Text.decimalValue (digitText t) := by
    rw [Text.filterMap_asciiDigitValue? hsignificant, Text.valueInBase_eq_ofDigits,
      ← Text.decimalValue_dropWhile_zero, Text.decimalValue]
  have hchecks : ((digitText t).isEmpty || !(digitText t).all Char.isDigit) = false := by
    simpa [hne] using hdigit
  simp only [readInteger?, hchecks, hvalue, Bool.false_eq_true, if_false]
  split
  · next hlong =>
    have := mt (length_significant_le hdigit) (Nat.not_le.2 hlong)
    rw [if_neg this]
  · rfl

/-- An integer is read exactly when its text is decimal and the number is within the limit. -/
theorem readInteger?_eq_some_iff {t : Text} {n : Nat} :
    readInteger? t = some n ↔ IsDecimal t n ∧ n ≤ integerLimit := by
  by_cases hdecimal : ∃ m, IsDecimal t m
  · obtain ⟨m, hm⟩ := hdecimal
    rw [hm.readInteger?_eq]
    split
    · next hlimit =>
      rw [Option.some_inj]
      constructor
      · rintro rfl
        exact ⟨hm, hlimit⟩
      · exact fun h => hm.unique h.1
    · next hlimit =>
      refine iff_of_false (by simp) fun h => hlimit ?_
      rw [hm.unique h.1]
      exact h.2
  · have hchecks : ((digitText t).isEmpty || !(digitText t).all Char.isDigit) = true := by
      by_contra hdigits
      rw [Bool.not_eq_true, Bool.or_eq_false_iff, List.isEmpty_eq_false_iff, Bool.not_eq_false',
        List.all_eq_true] at hdigits
      exact hdecimal ⟨_, isDecimal_iff.2 ⟨hdigits.1, hdigits.2, rfl⟩⟩
    rw [readInteger?, hchecks, if_pos rfl]
    exact iff_of_false (by simp) fun h => hdecimal ⟨n, h.1⟩

end Literal

end ColorLiteral
