import ColorLiteral.Json.Printer
import ColorLiteral.Json.Strict

/-!
# Tokens of printed JSON

What the reader of standard JSON makes of the pieces that the printer writes: a printed string is
read back character for character (`readString_escaped`), and a number in the notation of JSON is
taken as a whole (`numberLexeme_append`), unless more of it follows. The equations for `tokens` then
say which token each piece gives, in front of any rest.
-/

namespace ColorLiteral.Json

/-! ### Strings -/

theorem hexDigits_control : ∀ n < 0x20, (Text.hexDigits 4 n).length = 4 ∧
    hexValue? (Text.hexDigits 4 n) = some n ∧ (isHighHalf n || isLowHalf n) = false := by
  decide +kernel

/-- The escape of a control character, with something behind it. -/
theorem readUnit?_hexDigits {c d : Char} (hc : c.toNat < 0x20) (rest : Text) :
    readUnit? (Text.hexDigits 4 c.toNat ++ d :: rest) = some (c, d :: rest) := by
  obtain ⟨hlength, hvalue, hhalf⟩ := hexDigits_control c.toNat hc
  obtain ⟨hhigh, hlow⟩ := Bool.or_eq_false_iff.1 hhalf
  generalize Text.hexDigits 4 c.toNat = digits at hlength hvalue
  match digits, hlength with
  | [w, x, y, z], _ =>
    have hdigits : fourDigits? ([w, x, y, z] ++ d :: rest) = some (c.toNat, d :: rest) := by
      simp only [List.cons_append, List.nil_append, fourDigits?, hvalue, Option.map_some]
    simp only [readUnit?, hdigits, hhigh, hlow, Bool.false_eq_true, if_false, Char.ofNat_toNat]

section

variable {total start : Nat} {c : Char} {t rest : Text}

theorem readString_close : readString total start ('"' :: rest) = .ok ([], rest) := by
  simp [readString]

theorem readString_simple {escaped : Char} (hu : c ≠ 'u') (hc : simpleEscape? c = some escaped) :
    readString total start ('\\' :: c :: rest) =
      (readString total start rest).map (pushChar escaped) := by
  rw [readString.eq_4 _ _ _ _ (fun heq => hu heq), hc]

theorem readString_unit {after : Text} (hunit : readUnit? t = some (c, after)) :
    readString total start ('\\' :: 'u' :: t) =
      (readString total start after).map (pushChar c) := by
  rw [readString]
  split
  · next h => rw [hunit] at h; cases h
  · next h =>
    rw [hunit] at h
    cases h
    rfl

theorem readString_plain (hbackslash : c ≠ '\\') (hquote : c ≠ '"') (hcontrol : ¬ c.toNat < 0x20) :
    readString total start (c :: rest) = (readString total start rest).map (pushChar c) := by
  rw [readString.eq_def]
  split
  · next heq => cases heq
  · next heq => exact absurd (List.cons.inj heq).1 hbackslash
  · next heq => exact absurd (List.cons.inj heq).1 hbackslash
  · next heq => exact absurd (List.cons.inj heq).1 hbackslash
  · next heq =>
    obtain ⟨rfl, rfl⟩ := List.cons.inj heq
    rw [if_neg hquote, if_neg hcontrol]

/-- A written character is read back, whatever follows. -/
theorem readString_escapeChar (c d : Char) (rest : Text) :
    readString total start (escapeChar c ++ d :: rest) =
      (readString total start (d :: rest)).map (pushChar c) := by
  unfold escapeChar
  -- The seven characters with an escape of their own.
  iterate 7
    split
    · next h => subst h; exact readString_simple (by decide) rfl
  split
  · next hcontrol => exact readString_unit (readUnit?_hexDigits hcontrol rest)
  · next hquote hbackslash _ _ _ _ _ hcontrol =>
    exact readString_plain hbackslash hquote hcontrol

/-- A printed text is read back up to its closing quote. -/
theorem readString_escaped (total start : Nat) (t rest : Text) :
    readString total start (t.flatMap escapeChar ++ '"' :: rest) = .ok (t, rest) := by
  induction t with
  | nil => exact readString_close
  | cons c t ih =>
    -- Something stands behind the character, if only the closing quote.
    obtain ⟨d, after, hafter⟩ : ∃ d after, t.flatMap escapeChar ++ '"' :: rest = d :: after := by
      cases t.flatMap escapeChar with
      | nil => exact ⟨_, _, rfl⟩
      | cons d after => exact ⟨_, _, rfl⟩
    rw [List.flatMap_cons, List.append_assoc, hafter, readString_escapeChar, ← hafter, ih]
    rfl

end

/-! ### Numbers -/

/-- Digits, at least one. -/
def IsDigits (t : Text) : Prop := t ≠ [] ∧ ∀ c ∈ t, c.isDigit = true

/-- The part of a number in front of its point: a zero, or digits that do not start with one. -/
inductive IsWhole : Text → Prop
  | zero : IsWhole ['0']
  | digits {t : Text} (ht : IsDigits t) (hzero : t.head? ≠ some '0') : IsWhole t

/-- A point and digits, or nothing. -/
inductive IsFraction : Text → Prop
  | none : IsFraction []
  | digits {t : Text} (ht : IsDigits t) : IsFraction ('.' :: t)

/-- A power of ten, or nothing. -/
inductive IsExponent : Text → Prop
  | none : IsExponent []
  | digits {t : Text} (negative : Bool) (ht : IsDigits t) :
      IsExponent ('e' :: (if negative then '-' else '+') :: t)

/-- A number in the notation of JSON that has no sign. -/
inductive IsUnsigned : Text → Prop
  | mk {whole fraction exponent : Text} (hwhole : IsWhole whole) (hfraction : IsFraction fraction)
      (hexponent : IsExponent exponent) : IsUnsigned (whole ++ (fraction ++ exponent))

/-- A number in the notation of JSON. -/
inductive IsNumeral : Text → Prop
  | plain {t : Text} (ht : IsUnsigned t) : IsNumeral t
  | minus {t : Text} (ht : IsUnsigned t) : IsNumeral ('-' :: t)

/-- What may follow a value in a printed text. -/
def IsDelimited (rest : Text) : Prop :=
  rest = [] ∨ ∃ after, rest = ',' :: after ∨ rest = '\n' :: after

/-- No digit comes first. -/
def NoDigit (t : Text) : Prop := ∀ c ∈ t.head?, c.isDigit = false

theorem IsDelimited.head?_cases {rest : Text} (h : IsDelimited rest) :
    rest.head? = none ∨ rest.head? = some ',' ∨ rest.head? = some '\n' := by
  rcases h with rfl | ⟨after, rfl | rfl⟩
  · exact .inl rfl
  · exact .inr (.inl rfl)
  · exact .inr (.inr rfl)

theorem IsDelimited.noDigit {rest : Text} (h : IsDelimited rest) : NoDigit rest := by
  intro c hc
  rcases h.head?_cases with hnone | hcomma | hbreak
  · rw [hnone] at hc; cases hc
  · rw [hcomma] at hc; cases hc; decide
  · rw [hbreak] at hc; cases hc; decide

theorem takeWhile_digits {t rest : Text} (ht : ∀ c ∈ t, c.isDigit = true) (hrest : NoDigit rest) :
    (t ++ rest).takeWhile Char.isDigit = t := by
  have hstop : rest.takeWhile Char.isDigit = [] := by
    cases rest with
    | nil => rfl
    | cons c rest =>
      have hc : ¬ c.isDigit = true := by simp [hrest c rfl]
      exact List.takeWhile_cons_of_neg hc
  rw [List.takeWhile_append_of_pos ht, hstop, List.append_nil]

theorem IsWhole.ne_nil {t : Text} (h : IsWhole t) : t ≠ [] := by
  cases h with
  | zero => simp
  | digits ht => exact ht.1

theorem IsWhole.isDigit {t : Text} (h : IsWhole t) : ∀ c ∈ t, c.isDigit = true := by
  cases h with
  | zero => exact List.forall_mem_singleton.2 rfl
  | digits ht => exact ht.2

theorem wholeDigits_append {t rest : Text} (h : IsWhole t) (hrest : NoDigit rest) :
    wholeDigits (t ++ rest) = t := by
  cases h with
  | zero => rfl
  | digits ht hzero =>
    rw [wholeDigits.eq_def]
    split
    · next heq =>
      cases t with
      | nil => exact absurd rfl ht.1
      | cons c t => exact absurd (congrArg some (List.cons.inj heq).1) hzero
    · exact takeWhile_digits ht.2 hrest

theorem noDigit_fraction_append {fraction rest : Text} (h : IsFraction fraction)
    (hrest : NoDigit rest) : NoDigit (fraction ++ rest) := by
  cases h with
  | none => exact hrest
  | digits => intro c hc; cases hc; decide

theorem noDigit_exponent_append {exponent rest : Text} (h : IsExponent exponent)
    (hrest : NoDigit rest) : NoDigit (exponent ++ rest) := by
  cases h with
  | none => exact hrest
  | digits => intro c hc; cases hc; decide

theorem fractionDigits_append {fraction exponent rest : Text} (h : IsFraction fraction)
    (hexponent : IsExponent exponent) (hrest : IsDelimited rest) :
    fractionDigits (fraction ++ (exponent ++ rest)) = fraction := by
  cases h with
  | none =>
    -- Neither an exponent nor what follows a value starts with a point.
    have hpoint : ∀ after, exponent ++ rest ≠ '.' :: after := by
      intro after heq
      cases hexponent with
      | digits => cases heq
      | none =>
        rcases hrest.head?_cases with h | h | h
        all_goals
          rw [List.nil_append] at heq
          rw [heq] at h
          cases h
    rw [List.nil_append, fractionDigits.eq_def]
    split
    · next heq => exact absurd heq (hpoint _)
    · rfl
  | @digits t ht =>
    have htake := takeWhile_digits ht.2 (noDigit_exponent_append hexponent hrest.noDigit)
    rw [List.cons_append, fractionDigits, htake, if_neg (by simp [ht.1])]

theorem exponentDigits_append {exponent rest : Text} (h : IsExponent exponent)
    (hrest : IsDelimited rest) : exponentDigits (exponent ++ rest) = exponent := by
  cases h with
  | none =>
    rcases hrest with rfl | ⟨after, rfl | rfl⟩ <;> rfl
  | @digits t negative ht =>
    have htake := takeWhile_digits ht.2 hrest.noDigit
    cases negative <;> simp [exponentDigits, htake, ht.1]

/-- The number at the start of a text behind its sign. -/
def unsignedLexeme (t : Text) : Text :=
  let whole := wholeDigits t
  if whole.isEmpty then []
  else
    let rest := t.drop whole.length
    let fraction := fractionDigits rest
    whole ++ (fraction ++ exponentDigits (rest.drop fraction.length))

theorem numberLexeme_minus (t : Text) : numberLexeme ('-' :: t) =
    if (unsignedLexeme t).isEmpty then [] else '-' :: unsignedLexeme t := by
  have hdrop (n : Nat) : ('-' :: t).drop (1 + n) = t.drop n := by rw [Nat.add_comm]; rfl
  simp only [numberLexeme, unsignedLexeme, List.length_singleton, List.drop_one, List.tail_cons,
    hdrop, List.cons_append]
  cases hwhole : wholeDigits t with
  | nil => rfl
  | cons c whole => simp

theorem numberLexeme_of_head? {t : Text} (h : t.head? ≠ some '-') :
    numberLexeme t = unsignedLexeme t := by
  have hmain (sign : Text) (hsign : sign = []) :
      (let whole := wholeDigits (t.drop sign.length)
      if whole.isEmpty then []
      else
        let rest := t.drop (sign.length + whole.length)
        let fraction := fractionDigits rest
        sign ++ whole ++ fraction ++ exponentDigits (rest.drop fraction.length)) =
      unsignedLexeme t := by
    subst hsign
    simp [unsignedLexeme]
  refine hmain _ ?_
  split
  · exact absurd rfl h
  · rfl

theorem unsignedLexeme_append {t rest : Text} (h : IsUnsigned t) (hrest : IsDelimited rest) :
    unsignedLexeme (t ++ rest) = t := by
  obtain ⟨hwhole, hfraction, hexponent⟩ := h
  next whole fraction exponent =>
  have hstop : NoDigit (fraction ++ (exponent ++ rest)) :=
    noDigit_fraction_append hfraction (noDigit_exponent_append hexponent hrest.noDigit)
  have hdigits := wholeDigits_append hwhole hstop
  have hpoint := fractionDigits_append hfraction hexponent hrest
  have hpower := exponentDigits_append hexponent hrest
  have hne : whole.isEmpty = false := by simpa using hwhole.ne_nil
  simp only [unsignedLexeme, List.append_assoc, hdigits, hne, List.drop_left, hpoint, hpower,
    Bool.false_eq_true, if_false]

/-- A number without sign starts with a digit. -/
theorem IsUnsigned.exists_cons {t : Text} (h : IsUnsigned t) :
    ∃ c rest, t = c :: rest ∧ c.isDigit = true := by
  obtain ⟨hwhole, -, -⟩ := h
  next whole fraction exponent =>
  obtain ⟨c, rest, rfl⟩ := List.exists_cons_of_ne_nil hwhole.ne_nil
  exact ⟨c, _, rfl, hwhole.isDigit c (List.mem_cons_self ..)⟩

/-- A number is taken as a whole. -/
theorem numberLexeme_append {t rest : Text} (h : IsNumeral t) (hrest : IsDelimited rest) :
    numberLexeme (t ++ rest) = t := by
  cases h with
  | plain ht =>
    obtain ⟨c, after, rfl, hc⟩ := ht.exists_cons
    have hsign : (c :: after ++ rest).head? ≠ some '-' := by
      rintro ⟨⟩
      exact absurd hc (by decide)
    rw [numberLexeme_of_head? hsign, unsignedLexeme_append ht hrest]
  | @minus t ht =>
    obtain ⟨c, after, hcons, -⟩ := ht.exists_cons
    rw [List.cons_append, numberLexeme_minus, unsignedLexeme_append ht hrest, hcons]
    rfl

/-- A number starts with a digit or with a minus sign. -/
theorem IsNumeral.exists_cons {t : Text} (h : IsNumeral t) :
    ∃ c rest, t = c :: rest ∧ (c = '-' ∨ c.isDigit = true) := by
  cases h with
  | plain ht =>
    obtain ⟨c, rest, hcons, hc⟩ := ht.exists_cons
    exact ⟨c, rest, hcons, .inr hc⟩
  | minus ht => exact ⟨'-', _, rfl, .inl rfl⟩

/-! ### Tokens -/

section

variable {total : Nat} {c : Char} {rest : Text}

theorem tokens_blank (hc : isJsonBlank c = true) :
    tokens writtenNumbers total (c :: rest) = tokens writtenNumbers total rest := by
  rw [tokens, if_pos hc]

theorem tokens_blanks {t : Text} (ht : ∀ c ∈ t, isJsonBlank c = true) :
    tokens writtenNumbers total (t ++ rest) = tokens writtenNumbers total rest := by
  induction t with
  | nil => rfl
  | cons c t ih =>
    obtain ⟨hc, ht⟩ := List.forall_mem_cons.1 ht
    rw [List.cons_append, tokens_blank hc, ih ht]

theorem tokens_punctuation {token : JsonToken Text} (hblank : isJsonBlank c = false)
    (hquote : c ≠ '"') (hc : punctuation? c = some token) :
    ∃ offset, tokens writtenNumbers total (c :: rest) =
      (token, offset) :: tokens writtenNumbers total rest := by
  refine ⟨total - rest.length - 1, ?_⟩
  rw [tokens, if_neg (by simp [hblank]), if_neg hquote, hc]

theorem tokens_string (t : Text) : ∃ offset, tokens writtenNumbers total (printString t ++ rest) =
    (.string t, offset) :: tokens writtenNumbers total rest := by
  have hread (start : Nat) : readString total start (t.flatMap escapeChar ++ ['"'] ++ rest) =
      .ok (t, rest) := by
    rw [List.append_assoc]
    exact readString_escaped total start t rest
  refine ⟨total - (t.flatMap escapeChar ++ ['"'] ++ rest).length - 1, ?_⟩
  rw [printString, List.cons_append, List.cons_append, tokens, if_neg (by decide), if_pos rfl]
  split
  · next h => rw [hread] at h; cases h
  · next h =>
    rw [hread] at h
    cases h
    rfl

theorem tokens_scalar {t : Text} {token : JsonToken Text} (hhead : t.head? = some c)
    (hblank : isJsonBlank c = false) (hquote : c ≠ '"')
    (hpunctuation : punctuation? (ν := Text) c = none)
    (hscalar : scalar? writtenNumbers (t ++ rest) = some (token, t.length)) :
    ∃ offset, tokens writtenNumbers total (t ++ rest) =
      (token, offset) :: tokens writtenNumbers total rest := by
  obtain ⟨after, rfl⟩ := List.head?_eq_some_iff.1 hhead
  refine ⟨total - (after ++ rest).length - 1, ?_⟩
  rw [List.cons_append] at hscalar ⊢
  rw [tokens, if_neg (by simp [hblank]), if_neg hquote, hpunctuation, hscalar]
  simp only [List.length_cons, Nat.add_sub_cancel, List.drop_left]

end

end ColorLiteral.Json
