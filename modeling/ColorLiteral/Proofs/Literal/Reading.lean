import ColorLiteral.Proofs.Literal.Decimal
import ColorLiteral.Proofs.Outcome

/-!
# What arguments spell

Which expressions spell an integer, a number or a plain text, said by their shape. The readers of
channels, alphas and hexadecimal texts accept exactly these (`channelByte_eq_ok_iff`,
`alphaValue_eq_ok_iff`, `plainString_eq_ok_iff`), and each of their errors points at the expression
that it refuses.
-/

namespace ColorLiteral

namespace Expr

open Literal (IsDecimal readNumber?)

/-- A decimal integer literal, or a minus sign on one. -/
inductive SpellsInteger : Expr → Int → Prop
  | literal {t : Text} {span : Span} {n : Nat} (ht : IsDecimal t n) :
      SpellsInteger (.integer t span) n
  | negated {text t : Text} {span inner : Span} {n : Nat} (ht : IsDecimal t n) :
      SpellsInteger (.prefixed text span ['-'] (.integer t inner)) (-n)

/-- A number literal, or a minus sign on one. -/
inductive SpellsNumber : Expr → Binary64 → Prop
  | literal {e : Expr} {x : Binary64} (hnumber : e.isNumber = true)
      (hread : readNumber? e.text = some x) : SpellsNumber e x
  | negated {text : Text} {span : Span} {e : Expr} {x : Binary64} (hnumber : e.isNumber = true)
      (hread : readNumber? e.text = some x) : SpellsNumber (.prefixed text span ['-'] e) (-x)

/-- An integer from 0 to 255. -/
def IsByte (e : Expr) (n : Nat) : Prop := e.SpellsInteger n ∧ n ≤ 255

/-- A number from 0 to 1. -/
def IsAlpha (e : Expr) (x : Binary64) : Prop := e.SpellsNumber x ∧ 0 ≤ x ∧ x ≤ 1

/-- A string literal of one segment that is no interpolation. -/
def IsPlainString (e : Expr) (t : Text) : Prop :=
  ∃ text span segment, e = .string text span [segment] ∧ segment.isInterpolation = false ∧
    segment.text = t

end Expr

namespace Literal

open ColorLiteral.Expr (SpellsInteger SpellsNumber IsByte IsAlpha IsPlainString)

variable {v : Variant} {e : Expr}

/-! ### Integers -/

theorem integer?_eq_some_iff {z : Int} :
    integer? e = some z ↔ e.SpellsInteger z ∧ z.natAbs ≤ integerLimit := by
  constructor
  · intro h
    unfold integer? at h
    split at h
    · next t span =>
      obtain ⟨n, hn, rfl⟩ := Option.map_eq_some_iff.1 h
      obtain ⟨hdecimal, hlimit⟩ := readInteger?_eq_some_iff.1 hn
      exact ⟨.literal hdecimal, hlimit⟩
    · next text span t inner =>
      obtain ⟨n, hn, rfl⟩ := Option.map_eq_some_iff.1 h
      obtain ⟨hdecimal, hlimit⟩ := readInteger?_eq_some_iff.1 hn
      exact ⟨.negated hdecimal, by rwa [Int.natAbs_neg]⟩
    · cases h
  · rintro ⟨hspells, hlimit⟩
    cases hspells with
    | literal ht =>
      exact Option.map_eq_some_iff.2 ⟨_, readInteger?_eq_some_iff.2 ⟨ht, hlimit⟩, rfl⟩
    | negated ht =>
      rw [Int.natAbs_neg] at hlimit
      exact Option.map_eq_some_iff.2 ⟨_, readInteger?_eq_some_iff.2 ⟨ht, hlimit⟩, rfl⟩

theorem integer?_eq_none_iff :
    integer? e = none ↔ ∀ z, e.SpellsInteger z → integerLimit < z.natAbs := by
  constructor
  · intro hnone z hz
    by_contra hlimit
    have hsome := integer?_eq_some_iff.2 ⟨hz, Nat.not_lt.1 hlimit⟩
    rw [hnone] at hsome
    cases hsome
  · intro h
    by_contra hsome
    obtain ⟨z, hz⟩ := Option.ne_none_iff_exists'.1 hsome
    obtain ⟨hspells, hlimit⟩ := integer?_eq_some_iff.1 hz
    exact absurd hlimit (Nat.not_le.2 (h z hspells))

/-- Anything but an integer within the limit is no number of a channel. -/
theorem channelByte_of_no_integer (h : ∀ z, e.SpellsInteger z → integerLimit < z.natAbs) :
    channelByte v e = .error (.located e.span (.invalidNumericLiteral v.signature)) := by
  rw [channelByte, integer?_eq_none_iff.2 h]

/-- An integer within the limit that is no byte is reported with its value. -/
theorem channelByte_of_no_byte {z : Int} (hspells : e.SpellsInteger z)
    (hlimit : z.natAbs ≤ integerLimit) (hrange : z < 0 ∨ 255 < z) :
    channelByte v e =
      .error (.located e.span (.valueOutOfRange (channelRange v) (.ofInt z) .channel)) := by
  have hno : ¬ (0 ≤ z ∧ z ≤ 255) := by omega
  simp only [channelByte, integer?_eq_some_iff.2 ⟨hspells, hlimit⟩, if_neg hno]

/-- A channel is read exactly when the expression is an integer from 0 to 255. -/
theorem channelByte_eq_ok_iff {n : Nat} : channelByte v e = .ok n ↔ e.IsByte n := by
  constructor
  · intro h
    unfold channelByte at h
    split at h
    · cases h
    · next z hz =>
      split at h
      · next hrange =>
        obtain rfl : z.toNat = n := Except.ok.inj h
        obtain ⟨hspells, -⟩ := integer?_eq_some_iff.1 hz
        refine ⟨?_, by omega⟩
        rwa [Int.toNat_of_nonneg hrange.1]
      · cases h
  · rintro ⟨hspells, hrange⟩
    have hlimit : 255 ≤ integerLimit := by decide +kernel
    have hz : integer? e = some (n : Int) :=
      integer?_eq_some_iff.2 ⟨hspells, by rw [Int.natAbs_natCast]; omega⟩
    have hbounds : 0 ≤ (n : Int) ∧ (n : Int) ≤ 255 := by omega
    simp only [channelByte, hz, if_pos hbounds, Int.toNat_natCast]

theorem channelByte_error {err : ColorError} (h : channelByte v e = .error err) :
    err.anchor = some e.span := by
  unfold channelByte at h
  split at h
  · cases h; rfl
  · split at h <;> cases h
    rfl

/-! ### Numbers -/

theorem number?_eq_some_iff {x : Binary64} : number? e = some x ↔ e.SpellsNumber x := by
  constructor
  · intro h
    unfold number? at h
    split at h
    · exact .literal rfl h
    · exact .literal rfl h
    · obtain ⟨y, hy, rfl⟩ := Option.map_eq_some_iff.1 h
      exact .negated rfl hy
    · obtain ⟨y, hy, rfl⟩ := Option.map_eq_some_iff.1 h
      exact .negated rfl hy
    · cases h
  · intro h
    cases h with
    | literal hnumber hread =>
      cases e <;> cases hnumber
      all_goals exact hread
    | @negated _ _ operand _ hnumber hread =>
      cases operand <;> cases hnumber
      all_goals exact Option.map_eq_some_iff.2 ⟨_, hread, rfl⟩

theorem signedNumber_eq_ok_iff {x : Binary64} : signedNumber v e = .ok x ↔ e.SpellsNumber x := by
  rw [← number?_eq_some_iff, signedNumber]
  split
  · next h => simp [h]
  · next y h => simp [h]

theorem signedNumber_error {err : ColorError} (h : signedNumber v e = .error err) :
    err.anchor = some e.span := by
  unfold signedNumber at h
  split at h <;> cases h
  rfl

/-- A number is an alpha or reported with its value. -/
theorem alphaValue_of_spellsNumber {x : Binary64} (h : e.SpellsNumber x) :
    alphaValue v e = if 0 ≤ x ∧ x ≤ 1 then .ok x
      else .error (.located e.span (.valueOutOfRange "Alpha must be between 0 and 1" x .alpha)) := by
  simp only [alphaValue, signedNumber_eq_ok_iff.2 h, bind, Except.bind]

/-- An alpha is read exactly when the expression is a number from 0 to 1. -/
theorem alphaValue_eq_ok_iff {x : Binary64} : alphaValue v e = .ok x ↔ e.IsAlpha x := by
  rw [alphaValue, Outcome.bind_eq_ok_iff]
  constructor
  · rintro ⟨y, hy, h⟩
    split at h
    · next hrange =>
      cases h
      exact ⟨signedNumber_eq_ok_iff.1 hy, hrange⟩
    · cases h
  · rintro ⟨hspells, hrange⟩
    exact ⟨x, signedNumber_eq_ok_iff.2 hspells, by rw [if_pos hrange]⟩

theorem alphaValue_error {err : ColorError} (h : alphaValue v e = .error err) :
    err.anchor = some e.span := by
  rcases Outcome.bind_eq_error_iff.1 h with h | ⟨x, -, h⟩
  · exact signedNumber_error h
  · split at h <;> cases h
    rfl

/-! ### Strings -/

/-- A text is read exactly when the expression is a string literal of one plain segment. -/
theorem plainString_eq_ok_iff {t : Text} : plainString e = .ok t ↔ e.IsPlainString t := by
  constructor
  · intro h
    unfold plainString at h
    split at h
    · next segment =>
      split at h <;> cases h
      next hplain => exact ⟨_, _, segment, rfl, by simpa using hplain, rfl⟩
    · cases h
    · cases h
  · rintro ⟨text, span, segment, rfl, hplain, rfl⟩
    simp [plainString, hplain]

theorem plainString_error {err : ColorError} (h : plainString e = .error err) :
    err.anchor = some e.span := by
  unfold plainString at h
  split at h
  · split at h <;> cases h
    rfl
  · cases h; rfl
  · cases h; rfl

end Literal

end ColorLiteral
