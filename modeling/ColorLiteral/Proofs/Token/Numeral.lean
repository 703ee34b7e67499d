import ColorLiteral.Proofs.Token.Layout
import ColorLiteral.Proofs.Token.Written

/-!
# The numerals among the tokens

A number token in decimal notation is a written numeral when its characters are in ASCII
(`Token.exists_numeral`): each part of it that is not empty is made of a digit and of digits and
underscores behind it. In other scripts there are more digits, and integers in other bases are
tokens of their own.
-/

namespace ColorLiteral

open Written (Digits Exponent Numeral)

/-- The blocks of decimal digits other than the first one lie outside of ASCII. -/
theorem Text.digitZeros_ascii : ∀ first ∈ digitZeros, first = 48 ∨ 128 ≤ first := by
  decide

theorem Text.isDigit_of_ascii {c : Char} (hc : isDecimalDigit c = true) (hascii : c.toNat < 128) :
    c.isDigit = true := by
  obtain ⟨first, hfirst, hrange⟩ := List.any_eq_true.1 hc
  simp only [Bool.and_eq_true, decide_eq_true_eq] at hrange
  have hzero := digitZeros_ascii first hfirst
  have hlow : 48 ≤ c.toNat := by omega
  have hhigh : c.toNat ≤ 57 := by omega
  exact Bool.and_eq_true_iff.2
    ⟨decide_eq_true (UInt32.le_iff_toNat_le.2 hlow), decide_eq_true (UInt32.le_iff_toNat_le.2 hhigh)⟩

/-- All characters of a text are in ASCII. -/
def Text.IsAscii (t : Text) : Prop := ∀ c ∈ t, c.toNat < 128

namespace Lexeme

variable {t : Text}

theorem exists_digits (hne : digits t ≠ []) (hascii : (digits t).IsAscii) :
    ∃ d : Digits, digits t = d.text := by
  revert hne hascii
  fun_cases digits t with
  | case1 | case3 => exact fun hne _ => absurd rfl hne
  | case2 c rest hc =>
    intro _ hascii
    obtain ⟨hfirst, hrest⟩ := List.forall_mem_cons.1 hascii
    refine ⟨⟨c, _, Text.isDigit_of_ascii hc hfirst, fun d hd => ?_⟩, rfl⟩
    have hd' := List.mem_takeWhile_imp hd
    simp only [Bool.or_eq_true, decide_eq_true_eq] at hd'
    exact hd'.imp_left fun hdigit => Text.isDigit_of_ascii hdigit (hrest d hd)

theorem exists_fraction (hascii : (fraction t).IsAscii) :
    ∃ f : Option Digits, fraction t = f.elim [] fun d => '.' :: d.text := by
  revert hascii
  fun_cases fraction t with
  | case1 | case3 => exact fun _ => ⟨none, rfl⟩
  | case2 rest hne =>
    intro hascii
    obtain ⟨d, hd⟩ := exists_digits (by simpa using hne) (List.forall_mem_cons.1 hascii).2
    exact ⟨some d, by rw [hd]; rfl⟩

theorem exists_sign (t : Text) : ∃ s : Written.Sign, sign t = s.text := by
  fun_cases sign t with
  | case1 => exact ⟨.plus, rfl⟩
  | case2 => exact ⟨.minus, rfl⟩
  | case3 => exact ⟨.none, rfl⟩

theorem exists_exponent (hascii : (exponent t).IsAscii) :
    ∃ e : Option Exponent, exponent t = e.elim [] Exponent.text := by
  revert hascii
  fun_cases exponent t with
  | case1 | case2 | case4 => exact fun _ => ⟨none, rfl⟩
  | case3 c rest hletter power hne =>
    intro hascii
    have hpower : power.IsAscii :=
      fun d hd => hascii d (by simp [hd])
    obtain ⟨s, hs⟩ := exists_sign rest
    obtain ⟨d, hd : power = d.text⟩ := exists_digits (by simpa using hne) hpower
    refine ⟨some ⟨c, s, d, by simpa using hletter⟩, ?_⟩
    rw [hs, hd, List.cons_append]
    rfl

/-- A decimal number in ASCII is a numeral. -/
theorem exists_decimal (hdigit : digits t ≠ []) (hascii : (decimal t).2.IsAscii) :
    ∃ n : Numeral, decimal t = (n.kind, n.text) := by
  rw [decimal] at hascii ⊢
  dsimp only at hascii ⊢
  simp only [Text.IsAscii, List.forall_mem_append] at hascii
  obtain ⟨⟨hwhole, hfraction⟩, hexponent⟩ := hascii
  obtain ⟨w, hw⟩ := exists_digits hdigit hwhole
  obtain ⟨f, hf⟩ := exists_fraction hfraction
  obtain ⟨e, he⟩ := exists_exponent hexponent
  refine ⟨⟨w, f, e⟩, ?_⟩
  rw [he, hf, hw]
  cases f <;> cases e <;>
    simp [Numeral.kind, Numeral.isFloat, Numeral.text, Numeral.fractionText, Numeral.exponentText,
      Exponent.text]

/-- An integer in another base shows its base behind a zero. -/
theorem exists_base (hne : prefixedInteger t ≠ []) : ∃ base digits,
    prefixedInteger t = '0' :: base :: digits ∧ isPrefixedDigit base ≠ none := by
  revert hne
  fun_cases prefixedInteger t with
  | case1 | case2 | case4 => exact fun hne => absurd rfl hne
  | case3 base rest isDigit hbase =>
    intro _
    exact ⟨base, _, rfl, by simp [hbase]⟩

end Lexeme

namespace Token

/-- A number in decimal notation, with all its characters in ASCII. -/
structure IsDecimal (token : Token) : Prop where
  isNumber : token.kind = .integer ∨ token.kind = .float
  isAscii : token.text.IsAscii
  noBase : ∀ base rest, token.text = '0' :: base :: rest → Lexeme.isPrefixedDigit base = none

/-- A lexeme that is a decimal number in ASCII is a numeral. -/
theorem exists_numeral_of_plain {c : Char} {rest : Text} {start : Nat}
    (h : IsDecimal ⟨(Lexeme.plain c rest).1, (Lexeme.plain c rest).2, start⟩) :
    ∃ n : Numeral, Lexeme.plain c rest = (n.kind, n.text) := by
  obtain ⟨hnumber, hascii, hbase⟩ := h
  revert hnumber hascii hbase
  fun_cases Lexeme.plain c rest with
  | case1 hprefixed =>
    intro _ _ hbase
    obtain ⟨base, digits, htext, hsome⟩ := Lexeme.exists_base (by simpa using hprefixed)
    exact absurd (hbase base digits htext) hsome
  | case2 _ hdigit =>
    intro _ hascii _
    exact Lexeme.exists_decimal (by simp [Lexeme.digits, hdigit]) hascii
  | case3 | case4 | case5 =>
    intro hnumber
    rcases hnumber with hkind | hkind <;> cases hkind

/-- A number token in decimal notation is a numeral. -/
theorem exists_numeral {source : Text} {tokens : List Token} {token : Token}
    (hread : readAll source = .ok tokens) (hmem : token ∈ tokens) (h : token.IsDecimal) :
    ∃ n : Numeral, token.kind = n.kind ∧ token.text = n.text := by
  obtain ⟨stop, hreads⟩ := readAllFrom_eq_ok_iff.1 hread
  obtain ⟨c, rest, after, -, htoken⟩ := hreads.exists_read_of_mem hmem
  unfold read at htoken
  split at htoken
  · obtain ⟨contents, -, heq⟩ := Outcome.exists_of_map_eq_ok htoken
    have hstring : TokenKind.string contents.1 = token.kind :=
      congrArg (fun read => read.1.kind) heq
    rcases h.isNumber with hkind | hkind <;> rw [hkind] at hstring <;> cases hstring
  · obtain ⟨kind, text, start⟩ := token
    obtain ⟨rfl, rfl⟩ : kind = (Lexeme.plain c rest).1 ∧ text = (Lexeme.plain c rest).2 := by
      cases htoken
      exact ⟨rfl, rfl⟩
    obtain ⟨n, hn⟩ := exists_numeral_of_plain h
    exact ⟨n, congrArg Prod.fst hn, congrArg Prod.snd hn⟩

end Token

end ColorLiteral
