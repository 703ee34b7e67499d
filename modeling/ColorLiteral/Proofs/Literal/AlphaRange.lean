import ColorLiteral.Proofs.Literal.Notation
import ColorLiteral.Proofs.Literal.Reading
import ColorLiteral.Proofs.Token.Numeral

/-!
# Alphas by the number that was written

The range of an alpha is checked on the rounded number, while an exact decimal was written. The two
are on the same side of each bound unless rounding reaches the bound, which no number does that is
as far from it as the next binary64 number (`Literal.alpha_range_of_decimal`). However long a number
is and whatever its exponent, it is read, so that being out of range is the only error.
-/

namespace ColorLiteral

open Binary64 (IsRounded)

theorem Written.Numeral.value_nonneg (n : Written.Numeral) : 0 ≤ n.value := by
  have hfraction : 0 ≤ n.fractionValue := by
    rw [Written.Numeral.fractionValue]
    cases n.fraction with
    | none => exact le_rfl
    | some d => exact div_nonneg (Nat.cast_nonneg _) (pow_nonneg (by norm_num) _)
  exact mul_nonneg (add_nonneg (Nat.cast_nonneg _) hfraction) (zpow_nonneg (by norm_num) _)

/-- A number token spells the number that stands for its numeral. -/
theorem Token.IsDecimal.exists_number {token : Token} {n : Written.Numeral} (h : token.IsDecimal)
    (htext : token.text = n.text) :
    ∃ x, (Expr.ofToken token).SpellsNumber x ∧ IsRounded x n.value ∧
      ∀ text span, (Expr.prefixed text span ['-'] (.ofToken token)).SpellsNumber (-x) := by
  have hbare : Literal.digitText token.text = n.bare := by rw [htext, n.digitText_text]
  obtain ⟨x, hread, hrounded⟩ := n.exists_readNumber? hbare
  have hnumber : (Expr.ofToken token).isNumber = true ∧ (Expr.ofToken token).text = token.text := by
    rcases h.isNumber with hkind | hkind <;> simp [Expr.ofToken, hkind, Expr.isNumber, Expr.text]
  obtain ⟨hnumber, hsame⟩ := hnumber
  rw [← hsame] at hread
  exact ⟨x, .literal hnumber hread, hrounded, fun text span => .negated hnumber hread⟩

namespace Literal

variable {v : Variant} {e : Expr} {x : Binary64}

/-- An expression is read as an alpha, which is a number from 0 to 1. -/
def AcceptsAlpha (v : Variant) (e : Expr) : Prop :=
  ∃ x, alphaValue v e = .ok x ∧ 0 ≤ x ∧ x ≤ 1

/-- An expression is reported as an alpha out of range. -/
def RefusesAlpha (v : Variant) (e : Expr) : Prop :=
  ∃ x, alphaValue v e =
    .error (.located e.span (.valueOutOfRange "Alpha must be between 0 and 1" x .alpha))

theorem acceptsAlpha_of_spellsNumber (h : e.SpellsNumber x) (hrange : 0 ≤ x ∧ x ≤ 1) :
    AcceptsAlpha v e :=
  ⟨x, by rw [alphaValue_of_spellsNumber h, if_pos hrange], hrange⟩

theorem refusesAlpha_of_spellsNumber (h : e.SpellsNumber x) (hrange : ¬ (0 ≤ x ∧ x ≤ 1)) :
    RefusesAlpha v e :=
  ⟨x, by rw [alphaValue_of_spellsNumber h, if_neg hrange]⟩

theorem acceptsAlpha_or_refusesAlpha (h : e.SpellsNumber x) :
    AcceptsAlpha v e ∨ RefusesAlpha v e := by
  by_cases hrange : 0 ≤ x ∧ x ≤ 1
  · exact .inl (acceptsAlpha_of_spellsNumber h hrange)
  · exact .inr (refusesAlpha_of_spellsNumber h hrange)

/-- A number token in decimal notation is a numeral. It is read as an alpha if the rational number
that it stands for is at most one, and reported as out of range from the next binary64 number on.
Behind a minus sign zero is read, and from the least positive number on it is out of range. -/
theorem alpha_range_of_decimal {source : Text} {tokens : List Token} {token : Token}
    (hread : Token.readAll source = .ok tokens) (hmem : token ∈ tokens) (h : token.IsDecimal) :
    (∃ n : Written.Numeral, token.text = n.text) ∧
    ∀ n : Written.Numeral, token.text = n.text → ∀ v,
      (n.value ≤ 1 → AcceptsAlpha v (.ofToken token)) ∧
      (1 + 1 / 2 ^ 52 ≤ n.value → RefusesAlpha v (.ofToken token)) ∧
      (AcceptsAlpha v (.ofToken token) ∨ RefusesAlpha v (.ofToken token)) ∧
      ∀ text span,
        (n.value = 0 → AcceptsAlpha v (.prefixed text span ['-'] (.ofToken token))) ∧
        (1 / 2 ^ 1074 ≤ n.value → RefusesAlpha v (.prefixed text span ['-'] (.ofToken token))) ∧
        (AcceptsAlpha v (.prefixed text span ['-'] (.ofToken token)) ∨
          RefusesAlpha v (.prefixed text span ['-'] (.ofToken token))) := by
  obtain ⟨n, -, htext⟩ := Token.exists_numeral hread hmem h
  refine ⟨⟨n, htext⟩, fun n htext v => ?_⟩
  obtain ⟨x, hspells, hrounded, hnegated⟩ := h.exists_number htext
  refine ⟨fun hle => ?_, fun hge => ?_, acceptsAlpha_or_refusesAlpha hspells, fun text span =>
    ⟨fun hzero => ?_, fun hpos => ?_, acceptsAlpha_or_refusesAlpha (hnegated text span)⟩⟩
  · have hlow : 0 ≤ x := hrounded.ofNat_le (by decide) (by simpa using n.value_nonneg)
    have hhigh : x ≤ 1 := hrounded.le_ofNat (by decide) (by simpa using hle)
    exact acceptsAlpha_of_spellsNumber hspells ⟨hlow, hhigh⟩
  · exact refusesAlpha_of_spellsNumber hspells fun hrange => hrounded.not_le_one hge hrange.2
  · rw [hzero] at hrounded
    exact acceptsAlpha_of_spellsNumber (hnegated text span) hrounded.neg_between
  · exact refusesAlpha_of_spellsNumber (hnegated text span) fun hrange =>
      hrounded.not_le_zero hpos (Binary64.zero_le_neg_iff.1 hrange.1)

/-- One half, with underscores and an exponent. -/
def oneHalf : Written.Numeral where
  whole := ⟨'0', ['_', '0'], by decide, List.all_iff_forall_prop.1 (by decide)⟩
  fraction := some ⟨'5', ['_'], by decide, List.all_iff_forall_prop.1 (by decide)⟩
  exponent := some
    ⟨'e', .plus, ⟨'0', ['_'], by decide, List.all_iff_forall_prop.1 (by decide)⟩, .inl rfl⟩

/-- One half is an alpha, and it is out of range behind a minus sign. -/
theorem alpha_range_of_decimal_half : ∃ tokens token,
    Token.readAll "0_0.5_e+0_".toList = .ok tokens ∧ token ∈ tokens ∧ token.IsDecimal ∧
    AcceptsAlpha .rgba (.ofToken token) ∧
    RefusesAlpha .rgba (.prefixed "-0_0.5_e+0_".toList ⟨0, 11⟩ ['-'] (.ofToken token)) := by
  have hread : Token.readAll "0_0.5_e+0_".toList =
      .ok [⟨.float, "0_0.5_e+0_".toList, 0⟩] := by
    decide +kernel
  have hmem := List.mem_singleton_self (⟨.float, "0_0.5_e+0_".toList, 0⟩ : Token)
  have hascii : Text.IsAscii "0_0.5_e+0_".toList := List.all_iff_forall_prop.1 (by decide)
  have hdecimal : Token.IsDecimal ⟨.float, "0_0.5_e+0_".toList, 0⟩ :=
    ⟨.inr rfl, hascii, fun base rest hbase => by cases hbase; decide⟩
  obtain ⟨-, hrange⟩ := alpha_range_of_decimal hread hmem hdecimal
  obtain ⟨haccepts, -, -, hnegated⟩ := hrange oneHalf (by decide) .rgba
  obtain ⟨-, hrefuses, -⟩ := hnegated "-0_0.5_e+0_".toList ⟨0, 11⟩
  exact ⟨_, _, hread, hmem, hdecimal, haccepts (by decide +kernel), hrefuses (by decide +kernel)⟩

end Literal

end ColorLiteral
