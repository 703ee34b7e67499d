import ColorLiteral.Literal
import ColorLiteral.Proofs.Binary64.Decimal
import ColorLiteral.Proofs.Text.Trim
import ColorLiteral.Proofs.Token.Written
import Mathlib.Tactic.FieldSimp

/-!
# The numbers that numerals stand for

A written numeral stands for a rational number: digits with a point and a power of ten, in which
underscores count for nothing (`Written.Numeral.value`). Its reader takes the underscores out first.
What is left is read piece by piece, as the decimal that is this rational number, and then rounded
(`Written.Numeral.exists_readNumber?`).
-/

namespace ColorLiteral

namespace Text

theorem toNat_of_isDigit {c : Char} (h : c.isDigit = true) : 48 ≤ c.toNat ∧ c.toNat ≤ 57 := by
  simp only [Char.isDigit, Bool.and_eq_true, decide_eq_true_eq] at h
  exact ⟨UInt32.le_iff_toNat_le.1 h.1, UInt32.le_iff_toNat_le.1 h.2⟩

theorem digitValue?_of_isDigit {c : Char} (h : c.isDigit = true) :
    digitValue? c = some (digitOf c) := by
  obtain ⟨hlow, hhigh⟩ := toNat_of_isDigit h
  rw [digitValue?, digitZeros, List.find?_cons_of_pos (by simp; omega)]
  rfl

theorem digitOf_lt {c : Char} (h : c.isDigit = true) : digitOf c < 10 := by
  have hlow : ('0' : Char).toNat = 48 := rfl
  obtain ⟨-, hhigh⟩ := toNat_of_isDigit h
  rw [digitOf]
  omega

theorem smallLetter_of_isDigit {c : Char} (h : c.isDigit = true) : Binary64.smallLetter c = c := by
  obtain ⟨-, hhigh⟩ := toNat_of_isDigit h
  refine if_neg fun hupper => ?_
  have hlow : 65 ≤ c.toNat := UInt32.le_iff_toNat_le.1 (of_decide_eq_true hupper).1
  omega

/-- The digits in front count for more than those behind. -/
theorem decimalValue_append (s t : Text) :
    decimalValue (s ++ t) = decimalValue s * 10 ^ t.length + decimalValue t := by
  rw [decimalValue, List.map_append, List.reverse_append, Nat.ofDigits_append]
  simp only [decimalValue, List.length_reverse, List.length_map]
  ring

end Text

namespace Decimal

variable {s t : Text}

theorem leadingDigits_append (hs : ∀ c ∈ s, c.isDigit = true)
    (ht : ∀ c ∈ t.head?, Text.isDecimalDigit c = false) :
    leadingDigits (s ++ t) = s.map Text.digitOf := by
  have hdecimal : ∀ c ∈ s, Text.isDecimalDigit c = true :=
    fun c hc => Text.isDecimalDigit_of_isDigit (hs c hc)
  rw [leadingDigits, Text.takeWhile_append_of_head? hdecimal ht, ← List.filterMap_eq_map]
  exact List.filterMap_congr fun c hc => Text.digitValue?_of_isDigit (hs c hc)

theorem afterDigits_append (hs : ∀ c ∈ s, c.isDigit = true)
    (ht : ∀ c ∈ t.head?, Text.isDecimalDigit c = false) : afterDigits (s ++ t) = t := by
  have hdecimal : ∀ c ∈ s, Text.isDecimalDigit c = true :=
    fun c hc => Text.isDecimalDigit_of_isDigit (hs c hc)
  rw [afterDigits, List.dropWhile_append_of_pos hdecimal, Text.dropWhile_eq_self_of_head? ht]

theorem readWhole?_of_digits (hne : s ≠ []) (hs : ∀ c ∈ s, c.isDigit = true) :
    readWhole? s = some (Text.decimalValue s) := by
  have hdigits := leadingDigits_append (t := []) hs nofun
  have hrest := afterDigits_append (t := []) hs nofun
  rw [List.append_nil] at hdigits hrest
  rw [readWhole?, hdigits, hrest, Text.valueInBase_eq_ofDigits]
  simp [hne, Text.decimalValue]

theorem read?_whole (hne : s ≠ []) (hs : ∀ c ∈ s, c.isDigit = true)
    (ht : ∀ c ∈ t.head?, Text.isDecimalDigit c = false ∧ c ≠ '.') :
    read? (s ++ t) = (readPower? t).map fun power => ⟨s.map Text.digitOf, power⟩ := by
  have hdigit : ∀ c ∈ t.head?, Text.isDecimalDigit c = false := fun c hc => (ht c hc).1
  simp only [read?, leadingDigits_append hs hdigit, afterDigits_append hs hdigit]
  split
  · exact absurd rfl (ht '.' rfl).2
  · simp [hne]

theorem read?_point {r : Text} (hne : s ≠ []) (hs : ∀ c ∈ s, c.isDigit = true)
    (hr : ∀ c ∈ r, c.isDigit = true) (ht : ∀ c ∈ t.head?, Text.isDecimalDigit c = false) :
    read? (s ++ '.' :: (r ++ t)) = (readPower? t).map fun power =>
      ⟨(s ++ r).map Text.digitOf, power - r.length⟩ := by
  have hpoint : ∀ c ∈ ('.' :: (r ++ t)).head?, Text.isDecimalDigit c = false := by
    rintro c ⟨⟩
    decide
  simp only [read?, leadingDigits_append hs hpoint, afterDigits_append hs hpoint,
    leadingDigits_append hr ht, afterDigits_append hr ht]
  simp [hne]

end Decimal

namespace Written

/-! ### Numerals without underscores -/

/-- Digits without the underscores between them. -/
def Digits.bare (d : Digits) : Text := d.first :: d.rest.filter (· ≠ '_')

/-- The number that digits spell. -/
def Digits.value (d : Digits) : Nat := Text.decimalValue d.bare

/-- The exponent as a number. -/
def Exponent.value (e : Exponent) : Int :=
  match e.sign with
  | .minus => -(e.power.value : Int)
  | _ => e.power.value

namespace Numeral

variable (n : Numeral)

/-- What the digits behind the point add: each of them counts a tenth of the one before. -/
def fractionValue : ℚ := n.fraction.elim 0 fun d => (d.value : ℚ) / 10 ^ d.bare.length

/-- The power of ten that a numeral is multiplied by. -/
def power : ℤ := n.exponent.elim 0 Exponent.value

/-- The rational number that a numeral stands for. -/
def value : ℚ := (n.whole.value + n.fractionValue) * 10 ^ n.power

/-- The digits behind the point. -/
def bareFraction : Text := n.fraction.elim [] Digits.bare

/-- The characters of the exponent, without underscores. -/
def bareExponent : Text := n.exponent.elim [] fun e => e.letter :: (e.sign.text ++ e.power.bare)

/-- The characters of a numeral, without underscores. -/
def bare : Text :=
  n.whole.bare ++ (n.fraction.elim [] (fun d => '.' :: d.bare) ++ n.bareExponent)

/-- The decimal that a numeral is read as. -/
def decimal : Decimal :=
  ⟨(n.whole.bare ++ n.bareFraction).map Text.digitOf,
    n.power - n.bareFraction.length⟩

end Numeral

theorem Digits.bare_isDigit (d : Digits) : ∀ c ∈ d.bare, c.isDigit = true := by
  intro c hc
  rcases List.mem_cons.1 hc with rfl | hc
  · exact d.first_isDigit
  · obtain ⟨hmem, hne⟩ := List.mem_filter.1 hc
    exact (d.rest_isDigit c hmem).resolve_right (by simpa using hne)

theorem Digits.filter_text (d : Digits) : d.text.filter (· ≠ '_') = d.bare := by
  have hfirst : d.first ≠ '_' := by
    intro hfirst
    have hdigit := d.first_isDigit
    rw [hfirst] at hdigit
    exact absurd hdigit (by decide)
  rw [Digits.text, List.filter_cons_of_pos (by simpa using hfirst), Digits.bare]

theorem Exponent.filter_text (e : Exponent) :
    e.text.filter (· ≠ '_') = e.letter :: (e.sign.text ++ e.power.bare) := by
  have hletter : e.letter ≠ '_' := by
    rcases e.letter_eq with h | h <;> rw [h] <;> decide
  have hsign : e.sign.text.filter (· ≠ '_') = e.sign.text := by
    cases e.sign <;> rfl
  rw [Exponent.text, List.filter_cons_of_pos (by simpa using hletter), List.filter_append, hsign,
    Digits.filter_text]

namespace Numeral

variable (n : Numeral)

theorem filter_text : n.text.filter (· ≠ '_') = n.bare := by
  have hfraction : n.fractionText.filter (· ≠ '_') =
      n.fraction.elim [] fun d => '.' :: d.bare := by
    rw [fractionText]
    cases n.fraction with
    | none => rfl
    | some d => exact congrArg _ d.filter_text
  have hexponent : n.exponentText.filter (· ≠ '_') = n.bareExponent := by
    rw [exponentText, bareExponent]
    cases n.exponent with
    | none => rfl
    | some e => exact e.filter_text
  rw [text, List.filter_append, List.filter_append, hfraction, hexponent, Digits.filter_text, bare]

theorem value_decimal : n.decimal.value = n.value := by
  have hten : (10 : ℚ) ≠ 0 := by norm_num
  have hdigits : Text.valueInBase 10 n.decimal.digits =
      n.whole.value * 10 ^ n.bareFraction.length + Text.decimalValue n.bareFraction := by
    rw [decimal, Text.valueInBase_eq_ofDigits]
    exact Text.decimalValue_append _ _
  have hfraction : n.fractionValue =
      Text.decimalValue n.bareFraction / 10 ^ n.bareFraction.length := by
    rw [fractionValue, bareFraction]
    cases n.fraction with
    | none => simp [Text.decimalValue]
    | some d => rfl
  rw [Decimal.value, hdigits, decimal, value, hfraction, zpow_sub₀ hten, zpow_natCast]
  push_cast
  field_simp

theorem decimal_digits_lt : ∀ digit ∈ n.decimal.digits, digit < 10 := by
  intro digit hdigit
  obtain ⟨c, hc, rfl⟩ := List.mem_map.1 hdigit
  refine Text.digitOf_lt ?_
  rcases List.mem_append.1 hc with hc | hc
  · exact n.whole.bare_isDigit c hc
  · rw [bareFraction] at hc
    cases hfraction : n.fraction with
    | none =>
      rw [hfraction] at hc
      cases hc
    | some d =>
      rw [hfraction] at hc
      exact d.bare_isDigit c hc

end Numeral

/-! ### Reading -/

theorem Digits.first_ne {c : Char} (d : Digits) (hc : c.isDigit = false) : d.first ≠ c := by
  rintro rfl
  rw [d.first_isDigit] at hc
  cases hc

theorem readWhole?_bare (d : Digits) : Decimal.readWhole? d.bare = some d.value :=
  Decimal.readWhole?_of_digits (List.cons_ne_nil _ _) d.bare_isDigit

theorem readExponent?_bare (e : Exponent) :
    Decimal.readExponent? (e.sign.text ++ e.power.bare) = some e.value := by
  rw [Exponent.value]
  cases e.sign with
  | plus | minus =>
    simp [Sign.text, Decimal.readExponent?, readWhole?_bare]
  | none =>
    have hwhole := readWhole?_bare e.power
    rw [Digits.bare] at hwhole
    simp only [Sign.text, List.nil_append, Digits.bare]
    rw [Decimal.readExponent?, hwhole]
    · rfl
    · intro t ht
      exact e.power.first_ne (by decide) (List.cons.inj ht).1
    · intro t ht
      exact e.power.first_ne (by decide) (List.cons.inj ht).1

namespace Numeral

variable (n : Numeral)

theorem readPower?_bareExponent : Decimal.readPower? n.bareExponent = some n.power := by
  rw [bareExponent, power]
  cases n.exponent with
  | none => rfl
  | some e =>
    have hletter : (decide (e.letter = 'e') || decide (e.letter = 'E')) = true := by
      simpa using e.letter_eq
    simp only [Option.elim_some, Decimal.readPower?]
    rw [if_pos hletter, readExponent?_bare]

/-- No digit stands in front of an exponent. -/
theorem head?_bareExponent : ∀ c ∈ n.bareExponent.head?, c = 'e' ∨ c = 'E' := by
  intro c hc
  rw [bareExponent] at hc
  cases hexponent : n.exponent with
  | none =>
    rw [hexponent] at hc
    cases hc
  | some e =>
    rw [hexponent] at hc
    obtain rfl := Option.some.inj hc
    exact e.letter_eq

theorem read?_bare : Decimal.read? n.bare = some n.decimal := by
  have hexponent : ∀ c ∈ n.bareExponent.head?, Text.isDecimalDigit c = false ∧ c ≠ '.' := by
    intro c hc
    rcases n.head?_bareExponent c hc with rfl | rfl <;> decide
  have hne : n.whole.bare ≠ [] := List.cons_ne_nil _ _
  rw [bare, decimal, bareFraction]
  cases n.fraction with
  | none =>
    rw [Option.elim_none, Option.elim_none, List.nil_append, List.append_nil,
      Decimal.read?_whole hne n.whole.bare_isDigit hexponent, readPower?_bareExponent]
    simp
  | some d =>
    rw [Option.elim_some, Option.elim_some, List.cons_append,
      Decimal.read?_point hne n.whole.bare_isDigit d.bare_isDigit fun c hc => (hexponent c hc).1,
      readPower?_bareExponent]
    rfl

/-- The characters of a numeral without underscores. -/
theorem mem_bare {c : Char} (hc : c ∈ n.bare) : c.isDigit = true ∨ c ∈ ".eE+-".toList := by
  rw [bare, List.mem_append, List.mem_append] at hc
  rcases hc with hc | hc | hc
  · exact .inl (n.whole.bare_isDigit c hc)
  · cases hfraction : n.fraction with
    | none =>
      rw [hfraction] at hc
      cases hc
    | some d =>
      rw [hfraction] at hc
      rcases List.mem_cons.1 hc with rfl | hc
      · exact .inr (by decide)
      · exact .inl (d.bare_isDigit c hc)
  · rw [bareExponent] at hc
    cases hexponent : n.exponent with
    | none =>
      rw [hexponent] at hc
      cases hc
    | some e =>
      rw [hexponent] at hc
      rcases List.mem_cons.1 hc with rfl | hc
      · rcases e.letter_eq with h | h <;> rw [h] <;> exact .inr (by decide)
      rcases List.mem_append.1 hc with hc | hc
      · cases hsign : e.sign <;> rw [hsign] at hc
        · cases hc
        · rw [List.mem_singleton.1 hc]
          exact .inr (by decide)
        · rw [List.mem_singleton.1 hc]
          exact .inr (by decide)
      · exact .inl (e.power.bare_isDigit c hc)

theorem trim_bare : Text.trim n.bare = n.bare := by
  have hmarks : ∀ c ∈ ".eE+-".toList, Text.isBlank c = false :=
    List.all_iff_forall_prop.1 (by decide)
  have hfree : n.bare.BlankFree := by
    intro c hc
    rcases n.mem_bare hc with hdigit | hmark
    · exact Text.isBlank_eq_false_of_isDecimalDigit (Text.isDecimalDigit_of_isDigit hdigit)
    · exact hmarks c hmark
  have hsolid : n.bare.IsSolid := Text.isSolid_of_blankFree (List.cons_ne_nil _ _) hfree
  have htrim := Text.trim_between (List.forall_mem_nil _) hsolid (List.forall_mem_nil _)
  rwa [List.nil_append, List.append_nil] at htrim

/-- Underscores are taken out of a numeral, and nothing else. -/
theorem digitText_text : Literal.digitText n.text = n.bare := by
  rw [Literal.digitText, filter_text, trim_bare]

/-- A numeral has no sign and is not the name of a number. -/
theorem ofUnsignedText?_bare :
    Binary64.ofUnsignedText? false n.bare = some (n.decimal.toBinary64 false) := by
  have hhead : (n.bare.map Binary64.smallLetter).head? = some n.whole.first :=
    congrArg some (Text.smallLetter_of_isDigit n.whole.first_isDigit)
  have hname (name : Text) (h : name.head?.any Char.isDigit = false) :
      n.bare.map Binary64.smallLetter ≠ name := by
    rintro rfl
    rw [hhead, Option.any_some, n.whole.first_isDigit] at h
    cases h
  have hinfinite : ¬ (n.bare.map Binary64.smallLetter = "inf".toList ∨
      n.bare.map Binary64.smallLetter = "infinity".toList) :=
    not_or.2 ⟨hname _ (by decide), hname _ (by decide)⟩
  simp only [Binary64.ofUnsignedText?, if_neg hinfinite, if_neg (hname "nan".toList (by decide)),
    read?_bare, Option.map_some]

theorem ofText?_bare : Binary64.ofText? n.bare = some (n.decimal.toBinary64 false) := by
  rw [Binary64.ofText?, trim_bare, ← ofUnsignedText?_bare]
  split
  · next heq => exact absurd (List.cons.inj heq).1 (n.whole.first_ne (by decide))
  · next heq => exact absurd (List.cons.inj heq).1 (n.whole.first_ne (by decide))
  · rfl

theorem readNumber?_of_digitText {t : Text} (h : Literal.digitText t = n.bare) :
    Literal.readNumber? t = some (n.decimal.toBinary64 false) := by
  have hbase (c : Char) (hdigit : c.isDigit = false) (hmark : c ∉ ".eE+-".toList) (r : Text) :
      n.bare ≠ '0' :: c :: r := by
    intro heq
    rcases n.mem_bare (c := c) (by rw [heq]; simp) with hc | hc
    · rw [hdigit] at hc
      cases hc
    · exact hmark hc
  rw [← ofText?_bare, Literal.readNumber?, h]
  split
  · next heq => exact absurd heq (hbase 'x' (by decide) (by decide) _)
  · next heq => exact absurd heq (hbase 'X' (by decide) (by decide) _)
  · rfl

/-- Whatever its size and its exponent, a numeral is read as the number that stands for it. -/
theorem exists_readNumber? {t : Text} (h : Literal.digitText t = n.bare) :
    ∃ x, Literal.readNumber? t = some x ∧ Binary64.IsRounded x n.value := by
  refine ⟨_, n.readNumber?_of_digitText h, ?_⟩
  rw [← value_decimal]
  exact Decimal.isRounded_toBinary64 n.decimal_digits_lt

end Numeral

end Written

end ColorLiteral
