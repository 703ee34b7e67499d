import ColorLiteral.Binary64.Shortest
import ColorLiteral.Proofs.Binary64.Rounding
import ColorLiteral.Proofs.Json.Scanning
import Mathlib.Data.List.Basic
import Mathlib.Data.List.TakeWhile

/-!
# Written numbers are numbers of JSON

The text of an integer and the text of a finite binary64 number are numbers in the notation of JSON
(`isNumeral_ofInt`, `isNumeral_toText`). The digits of a positive number do not start with a zero,
so that all depends on the count that is written for a magnitude being positive. A count that reads
back as the magnitude is (`pos_of_readsBack`). The count of last resort is, because it has the
magnitude in steps that are small against it (`inSteps_leadingPower`).
-/

namespace ColorLiteral

open Json (IsDigits IsWhole IsFraction IsExponent IsUnsigned IsNumeral)

/-! ### Natural numbers -/

theorem isDigits_ofNat (n : Nat) : IsDigits (Text.ofNat n) :=
  ⟨Nat.toDigits_ne_nil, fun _ => Nat.isDigit_of_mem_toDigits (by decide) (by decide)⟩

theorem head?_ofNat {n : Nat} (hn : 0 < n) : (Text.ofNat n).head? ≠ some '0' := by
  induction n using Nat.strongRecOn with
  | ind n ih =>
    have hdigits := Nat.toDigits_eq_if (n := n) (b := 10) (by decide)
    rw [Text.ofNat, hdigits]
    split
    · next hlt =>
      have hall : ∀ n < 10, 0 < n → [n.digitChar].head? ≠ some '0' := by decide
      exact hall n hlt hn
    · next hle =>
      have hpos : 0 < n / 10 := Nat.div_pos (Nat.le_of_not_lt hle) (by decide)
      have hhead := ih (n / 10) (by omega) hpos
      have hne := (isDigits_ofNat (n / 10)).1
      rw [Text.ofNat] at hhead hne
      rwa [List.head?_append_of_ne_nil _ hne]

theorem isWhole_ofNat (n : Nat) : IsWhole (Text.ofNat n) := by
  by_cases hn : n = 0
  · subst hn
    exact .zero
  · exact .digits (isDigits_ofNat n) (head?_ofNat (Nat.pos_of_ne_zero hn))

theorem isUnsigned_of_isWhole {t : Text} (h : IsWhole t) : IsUnsigned t := by
  have hunsigned := IsUnsigned.mk h .none .none
  rwa [List.append_nil, List.append_nil] at hunsigned

theorem isNumeral_ofInt (n : Int) : IsNumeral (Text.ofInt n) := by
  cases n with
  | ofNat n => exact .plain (isUnsigned_of_isWhole (isWhole_ofNat n))
  | negSucc n => exact .minus (isUnsigned_of_isWhole (isWhole_ofNat (n + 1)))

namespace Binary64

/-! ### The count for a magnitude -/

variable {units count : Nat} {power : Int}

theorem not_readsBack_zero (hunits : 0 < units) (power : Int) :
    readsBack units 0 power = false := by
  have hzero : Decimal.toBinary64 false ⟨(Nat.toDigits 10 0).map fun c => c.toNat - 48, power⟩ =
      .zero false := rfl
  rw [readsBack, hzero]
  show ((0 : Nat) == units) = false
  simp only [beq_eq_false_iff_ne]
  omega

theorem pos_of_readsBack (hunits : 0 < units) (h : readsBack units count power = true) :
    0 < count := by
  rcases Nat.eq_zero_or_pos count with rfl | hpos
  · rw [not_readsBack_zero hunits] at h
    cases h
  · exact hpos

theorem pos_of_neighbour? (hunits : 0 < units) (h : neighbour? units power = some count) :
    0 < count := by
  unfold neighbour? at h
  dsimp only at h
  split at h
  · next hbelow _ =>
    have hpos := pos_of_readsBack hunits hbelow
    have hle := le_roundHalfEven (inSteps units power).1 (inSteps units power).2
    cases h
    omega
  · next hbelow _ =>
    cases h
    exact pos_of_readsBack hunits hbelow
  · cases h
    exact Nat.succ_pos _
  · cases h

theorem unitsPerOne_le_pow : unitsPerOne ≤ Nat.pow 10 400 := by decide +kernel

theorem pow_decimalWidth_le {n : Nat} (hn : 0 < n) : 10 ^ (decimalWidth n - 1) ≤ n := by
  have hpos : 0 < decimalWidth n := Nat.length_toDigits_pos
  rcases Nat.eq_or_lt_of_le hpos with hone | hmore
  · rw [← hone]
    exact hn
  · have hiff := Nat.length_toDigits_le_iff (b := 10) (n := n) (k := decimalWidth n - 1)
      (by decide) (by omega)
    have hlong : ¬ decimalWidth n ≤ decimalWidth n - 1 := by omega
    exact Nat.le_of_not_lt (mt hiff.2 hlong)

/-- Powers of ten that count a leading digit, in steps of another power. -/
theorem le_of_leading {n width unit : Nat} (h : 10 ^ (width - 1) * unit ≤ units * 10 ^ n)
    (hwidth : 0 < width) :
    (∀ e, width = e + n + 18 → unit * 10 ^ e ≤ units) ∧
      ∀ e, width + e = n + 18 → unit ≤ units * 10 ^ e := by
  have hn : 0 < 10 ^ n := Nat.pow_pos (by decide)
  constructor
  · rintro e rfl
    have hpow : 10 ^ (e + n + 18 - 1) = 10 ^ e * 10 ^ 17 * 10 ^ n := by
      rw [← Nat.pow_add, ← Nat.pow_add]
      congr 1
      omega
    rw [hpow] at h
    have hcancel : unit * 10 ^ e * 10 ^ 17 ≤ units := by
      refine Nat.le_of_mul_le_mul_right ?_ hn
      calc unit * 10 ^ e * 10 ^ 17 * 10 ^ n = 10 ^ e * 10 ^ 17 * 10 ^ n * unit := by ring
        _ ≤ units * 10 ^ n := h
    exact Nat.le_trans (Nat.le_mul_of_pos_right _ (by decide)) hcancel
  · intro e he
    have hpow : 10 ^ (width - 1) * 10 ^ e = 10 ^ 17 * 10 ^ n := by
      rw [← Nat.pow_add, ← Nat.pow_add]
      congr 1
      omega
    have hcancel : 10 ^ 17 * unit ≤ units * 10 ^ e := by
      refine Nat.le_of_mul_le_mul_right ?_ hn
      calc 10 ^ 17 * unit * 10 ^ n = 10 ^ 17 * 10 ^ n * unit := by ring
        _ = 10 ^ (width - 1) * 10 ^ e * unit := by rw [hpow]
        _ = 10 ^ (width - 1) * unit * 10 ^ e := by ring
        _ ≤ units * 10 ^ n * 10 ^ e := Nat.mul_le_mul_right _ h
        _ = units * 10 ^ e * 10 ^ n := by ring
    exact Nat.le_trans (Nat.le_mul_of_pos_left _ (by decide)) hcancel

theorem pow_leading_le {scale : Nat} (hscale : unitsPerOne ≤ units * scale) :
    10 ^ (decimalWidth (units * scale / unitsPerOne) - 1) * unitsPerOne ≤ units * scale := by
  have hpos : 0 < units * scale / unitsPerOne := Nat.div_pos hscale unitsPerOne_pos
  calc 10 ^ (decimalWidth (units * scale / unitsPerOne) - 1) * unitsPerOne
      ≤ units * scale / unitsPerOne * unitsPerOne :=
        Nat.mul_le_mul_right _ (pow_decimalWidth_le hpos)
    _ ≤ units * scale := Nat.div_mul_le_self _ _

/-- Seventeen places below its leading digit, a magnitude is at least one step. -/
theorem inSteps_of_leading {n width : Nat} {top : Int}
    (h : 10 ^ (width - 1) * unitsPerOne ≤ units * Nat.pow 10 n) (hwidth : 0 < width)
    (htop : top + n + 1 = width) :
    0 < (inSteps units (top - 17)).2 ∧
      (inSteps units (top - 17)).2 ≤ (inSteps units (top - 17)).1 := by
  obtain ⟨hsmall, hgreat⟩ := le_of_leading h hwidth
  rcases hpower : top - 17 with e | e
  · have hwide : width = e + n + 18 := by
      have he : top - 17 = (e : Int) := hpower
      omega
    rw [inSteps]
    exact ⟨Nat.mul_pos unitsPerOne_pos (Nat.pow_pos (by decide)), hsmall e hwide⟩
  · have hwide : width + (e + 1) = n + 18 := by omega
    rw [inSteps]
    dsimp only
    exact ⟨unitsPerOne_pos, hgreat (e + 1) hwide⟩

theorem inSteps_leadingPower (hunits : 0 < units) :
    0 < (inSteps units (leadingPower units - 17)).2 ∧
      (inSteps units (leadingPower units - 17)).2 ≤
        (inSteps units (leadingPower units - 17)).1 := by
  have hlarge : unitsPerOne ≤ units * Nat.pow 10 400 :=
    Nat.le_trans unitsPerOne_le_pow (Nat.le_mul_of_pos_left _ hunits)
  have hwidth : 0 < decimalWidth (units * Nat.pow 10 400 / unitsPerOne) := Nat.length_toDigits_pos
  have htop : leadingPower units + (400 : Nat) + 1 =
      decimalWidth (units * Nat.pow 10 400 / unitsPerOne) := by
    rw [leadingPower]
    omega
  exact inSteps_of_leading (pow_leading_le hlarge) hwidth htop

theorem pos_getD {found : Option (Nat × Int)} {last : Nat × Int}
    (hfound : ∀ counted ∈ found, 0 < counted.1) (hlast : 0 < last.1) : 0 < (found.getD last).1 := by
  cases found with
  | some counted => exact hfound counted rfl
  | none => exact hlast

theorem pos_shortestDigits (hunits : 0 < units) : 0 < (shortestDigits units).1 := by
  have hsteps := inSteps_leadingPower hunits
  rw [shortestDigits]
  refine pos_getD ?_ ?_
  · intro counted hcounted
    obtain ⟨places, -, hplaces⟩ := List.exists_of_findSome?_eq_some hcounted
    obtain ⟨count, hcount, rfl⟩ := Option.map_eq_some_iff.1 hplaces
    exact pos_of_neighbour? hunits hcount
  · -- The quotient has to be a variable: the pattern would evaluate it.
    generalize inSteps units (leadingPower units - 17) = steps at hsteps ⊢
    obtain ⟨num, den⟩ := steps
    obtain ⟨hpos, hle⟩ := hsteps
    exact Nat.lt_of_lt_of_le (Nat.div_pos hle hpos) (le_roundHalfEven num den)

/-! ### Laid out digits -/

/-- Digits that do not start with a zero. -/
structure IsSignificant (digits : Text) : Prop where
  isDigits : IsDigits digits
  head?_ne : digits.head? ≠ some '0'

theorem isSignificant_dropTrailingZeros {digits : Text} (h : IsSignificant digits) :
    IsSignificant (dropTrailingZeros digits) := by
  obtain ⟨⟨hne, hdigit⟩, hhead⟩ := h
  have hkeeps : dropTrailingZeros digits <+: digits := by
    rw [← List.reverse_suffix, dropTrailingZeros, List.reverse_reverse]
    exact List.dropWhile_suffix _
  cases digits with
  | nil => exact absurd rfl hne
  | cons d digits =>
    have hd : ¬ (d == '0') = true := by simpa using hhead
    have hkept : dropTrailingZeros (d :: digits) ≠ [] := by
      intro hnil
      rw [dropTrailingZeros, List.reverse_eq_nil_iff, List.dropWhile_eq_nil_iff] at hnil
      exact hd (hnil d (by simp))
    refine ⟨⟨hkept, fun c hc => hdigit c (hkeeps.subset hc)⟩, ?_⟩
    cases hdropped : dropTrailingZeros (d :: digits) with
    | nil => exact absurd hdropped hkept
    | cons c rest =>
      rw [hdropped] at hkeeps
      rw [(List.cons_prefix_cons.1 hkeeps).1]
      exact hhead

theorem isDigits_replicate_append {digits : Text} (n : Nat) (h : IsDigits digits) :
    IsDigits (List.replicate n '0' ++ digits) := by
  refine ⟨fun hnil => h.1 (List.append_eq_nil_iff.1 hnil).2, fun c hc => ?_⟩
  rcases List.mem_append.1 hc with hc | hc
  · rw [(List.mem_replicate.1 hc).2]
    rfl
  · exact h.2 c hc

theorem isUnsigned_layOut {digits : Text} (h : IsSignificant digits) (power : Int) :
    IsUnsigned (layOut digits power) := by
  obtain ⟨⟨hne, hdigit⟩, hhead⟩ := h
  obtain ⟨d, rest, rfl⟩ := List.exists_cons_of_ne_nil hne
  have hd : d ≠ '0' := fun heq => hhead (congrArg some heq)
  unfold layOut
  split
  · split
    · have hfraction : IsDigits (List.replicate (-power - 1).toNat '0' ++ d :: rest) :=
        isDigits_replicate_append _ ⟨hne, hdigit⟩
      have hunsigned := IsUnsigned.mk .zero (.digits hfraction) .none
      rwa [List.append_nil] at hunsigned
    · -- The point stands behind the first digit or later.
      dsimp only
      generalize power.toNat = places
      have hwhole : IsWhole ((d :: rest).take (places + 1) ++
          List.replicate (places + 1 - (d :: rest).length) '0') := by
        refine .digits ⟨by simp, fun c hc => ?_⟩ (by simpa using hd)
        rcases List.mem_append.1 hc with hc | hc
        · exact hdigit c (List.mem_of_mem_take hc)
        · rw [(List.mem_replicate.1 hc).2]
          rfl
      have hfraction : IsDigits (if ((d :: rest).drop (places + 1)).isEmpty then ['0']
          else (d :: rest).drop (places + 1)) := by
        split
        · exact ⟨by simp, by simp⟩
        · next hmore =>
          exact ⟨by simpa using hmore, fun c hc => hdigit c (List.mem_of_mem_drop hc)⟩
      have hunsigned := IsUnsigned.mk hwhole (.digits hfraction) .none
      rwa [List.append_nil] at hunsigned
  · have hexponent : IsExponent ('e' :: (if power < 0 then '-' else '+') ::
        Text.padLeft 2 '0' (Text.ofNat power.natAbs)) := by
      have hdigits : IsDigits (Text.padLeft 2 '0' (Text.ofNat power.natAbs)) :=
        isDigits_replicate_append _ (isDigits_ofNat power.natAbs)
      have hpower := IsExponent.digits (decide (power < 0)) hdigits
      simpa only [decide_eq_true_eq] using hpower
    have hwhole : IsWhole [d] :=
      .digits ⟨by simp, by simpa using hdigit d (List.mem_cons_self ..)⟩ (by simpa using hd)
    cases rest with
    | nil => exact IsUnsigned.mk hwhole .none hexponent
    | cons second others =>
      have hfraction : IsDigits (second :: others) :=
        ⟨by simp, fun c hc => hdigit c (List.mem_cons_of_mem _ hc)⟩
      exact IsUnsigned.mk hwhole (.digits hfraction) hexponent

/-! ### Numbers -/

theorem isUnsigned_magnitudeText (units : Nat) : IsUnsigned (magnitudeText units) := by
  unfold magnitudeText
  split
  · have hfraction : IsFraction ['.', '0'] := .digits ⟨by simp, List.forall_mem_singleton.2 rfl⟩
    exact IsUnsigned.mk .zero hfraction .none
  · next hunits =>
    have hcount := pos_shortestDigits (Nat.pos_of_ne_zero hunits)
    have hdigits : IsSignificant (Text.ofNat (shortestDigits units).1) :=
      ⟨isDigits_ofNat _, head?_ofNat hcount⟩
    generalize shortestDigits units = found at hdigits
    obtain ⟨count, power⟩ := found
    exact isUnsigned_layOut (isSignificant_dropTrailingZeros hdigits) _

/-- The text of a finite number is a number of JSON. -/
theorem isNumeral_toText {x : Binary64} (hx : x.isFinite = true) : IsNumeral x.toText := by
  cases x with
  | nan | infinite => cases hx
  | finite negative m =>
    have hunsigned := isUnsigned_magnitudeText m.units
    cases negative with
    | true => exact .minus hunsigned
    | false => exact .plain hunsigned

end Binary64

end ColorLiteral
