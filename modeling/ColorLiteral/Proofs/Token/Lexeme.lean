import ColorLiteral.Token.Lexer
import Mathlib.Data.List.TakeWhile

/-!
# What a lexeme is made of

Outside string literals, the characters of a token come from the start of the text that is left
(`plain_isPrefix`) and none of them is blank (`blankFree_plain`). A token of punctuation is its one
character (`text_of_plain_punctuation`).

The second fact needs that no class of characters that a lexeme draws on meets the blanks. The
ASCII classes lie between the space and the end of ASCII, where nothing is blank; the decimal
digits of all scripts are compared with the blanks block by block.
-/

namespace ColorLiteral

namespace Text

/-! ### Where a run of characters ends -/

variable {p : Char → Bool}

theorem takeWhile_append_of_head? {s t : Text} (hs : ∀ c ∈ s, p c = true)
    (ht : ∀ c ∈ t.head?, p c = false) : (s ++ t).takeWhile p = s := by
  rw [List.takeWhile_append_of_pos hs]
  cases t with
  | nil => simp
  | cons c t => simp [ht c rfl]

theorem dropWhile_eq_self_of_head? {t : Text} (h : ∀ c ∈ t.head?, p c = false) :
    t.dropWhile p = t := by
  cases t with
  | nil => rfl
  | cons c t => rw [List.dropWhile_cons_of_neg (by simp [h c rfl])]

/-! ### Characters that are not blank -/

/-- The ranges of blanks lie outside the characters of ASCII behind the space. -/
theorem blankRanges_apart : ∀ range ∈ blankRanges, range.2 ≤ 0x20 ∨ 0x7F ≤ range.1 := by
  decide

theorem isBlank_eq_false_of_graphic {c : Char} (hlow : 0x20 < c.toNat) (hhigh : c.toNat < 0x7F) :
    isBlank c = false := by
  rw [isBlank, CharTable.covers, List.any_eq_false]
  intro range hrange
  simp only [Bool.and_eq_true, decide_eq_true_eq]
  have := blankRanges_apart range hrange
  omega

/-- The blocks of decimal digits lie outside the ranges of blanks. -/
theorem digitZeros_apart : ∀ first ∈ digitZeros, ∀ range ∈ blankRanges,
    first + 10 ≤ range.1 ∨ range.2 < first := by
  decide

theorem isBlank_eq_false_of_isDecimalDigit {c : Char} (h : isDecimalDigit c = true) :
    isBlank c = false := by
  obtain ⟨first, hfirst, hc⟩ := List.any_eq_true.1 h
  simp only [Bool.and_eq_true, decide_eq_true_eq] at hc
  rw [isBlank, CharTable.covers, List.any_eq_false]
  intro range hrange
  simp only [Bool.and_eq_true, decide_eq_true_eq]
  have := digitZeros_apart first hfirst range hrange
  omega

/-- The letters of ASCII have numbers between those of the first and the last one. -/
theorem toNat_of_isAlpha {c : Char} (h : c.isAlpha = true) : 65 ≤ c.toNat ∧ c.toNat ≤ 122 := by
  rcases Bool.or_eq_true_iff.1 h with h | h
  · obtain ⟨hlow, hhigh⟩ := of_decide_eq_true h
    have hlow : 65 ≤ c.toNat := UInt32.le_iff_toNat_le.1 hlow
    have hhigh : c.toNat ≤ 90 := UInt32.le_iff_toNat_le.1 hhigh
    omega
  · obtain ⟨hlow, hhigh⟩ := Bool.and_eq_true_iff.1 h
    have hlow : 97 ≤ c.toNat := UInt32.le_iff_toNat_le.1 (of_decide_eq_true hlow)
    have hhigh : c.toNat ≤ 122 := UInt32.le_iff_toNat_le.1 (of_decide_eq_true hhigh)
    omega

/-- The blocks of decimal digits lie outside the letters of ASCII. -/
theorem digitZeros_apart_letters : ∀ first ∈ digitZeros, first + 10 ≤ 65 ∨ 123 ≤ first := by
  decide

theorem isDecimalDigit_of_isAlpha {c : Char} (h : c.isAlpha = true) : isDecimalDigit c = false := by
  obtain ⟨hlow, hhigh⟩ := toNat_of_isAlpha h
  rw [isDecimalDigit, List.any_eq_false]
  intro first hfirst
  have := digitZeros_apart_letters first hfirst
  simp only [Bool.and_eq_true, decide_eq_true_eq]
  omega

/-- No character of a text is blank. -/
def BlankFree (t : Text) : Prop := ∀ c ∈ t, isBlank c = false

theorem blankFree_nil : BlankFree [] := by simp [BlankFree]

theorem BlankFree.append {s t : Text} (hs : BlankFree s) (ht : BlankFree t) :
    BlankFree (s ++ t) := by
  intro c hc
  rcases List.mem_append.1 hc with hc | hc
  · exact hs c hc
  · exact ht c hc

theorem BlankFree.cons {c : Char} {t : Text} (hc : isBlank c = false) (ht : BlankFree t) :
    BlankFree (c :: t) :=
  BlankFree.append (List.forall_mem_singleton.2 hc) ht

theorem blankFree_takeWhile {p : Char → Bool} (hp : ∀ c, p c = true → isBlank c = false)
    (t : Text) : BlankFree (t.takeWhile p) :=
  fun c hc => hp c (List.mem_takeWhile_imp hc)

end Text

namespace Lexeme

open Text (isBlank BlankFree blankFree_nil blankFree_takeWhile isBlank_eq_false_of_graphic
  isBlank_eq_false_of_isDecimalDigit)

/-! ### The classes of characters -/

theorem isBlank_eq_false_of_isPrefixedDigit {base c : Char} {isDigit : Char → Bool}
    (hbase : isPrefixedDigit base = some isDigit) (hc : isDigit c = true) : isBlank c = false := by
  have h0 : ('0' : Char).toNat = 48 := rfl
  have h7 : ('7' : Char).toNat = 55 := rfl
  have ha : ('a' : Char).toNat = 97 := rfl
  have hf : ('f' : Char).toNat = 102 := rfl
  have hA : ('A' : Char).toNat = 65 := rfl
  have hF : ('F' : Char).toNat = 70 := rfl
  unfold isPrefixedDigit at hbase
  split at hbase
  · cases hbase
    simp only [Bool.or_eq_true, Bool.and_eq_true, decide_eq_true_eq, Char.le_def,
      UInt32.le_iff_toNat_le, Char.toNat_val] at hc
    rcases hc with ((hc | hc) | hc) | rfl
    · exact isBlank_eq_false_of_isDecimalDigit (Text.isDecimalDigit_of_isDigit hc)
    · exact isBlank_eq_false_of_graphic (by omega) (by omega)
    · exact isBlank_eq_false_of_graphic (by omega) (by omega)
    · decide
  · cases hbase
    simp only [Bool.or_eq_true, decide_eq_true_eq] at hc
    rcases hc with (rfl | rfl) | rfl <;> decide
  · cases hbase
    simp only [Bool.or_eq_true, Bool.and_eq_true, decide_eq_true_eq, Char.le_def,
      UInt32.le_iff_toNat_le, Char.toNat_val] at hc
    rcases hc with hc | rfl
    · exact isBlank_eq_false_of_graphic (by omega) (by omega)
    · decide
  · cases hbase

theorem isBlank_eq_false_of_base {base : Char} {isDigit : Char → Bool}
    (h : isPrefixedDigit base = some isDigit) : isBlank base = false := by
  unfold isPrefixedDigit at h
  split at h
  · decide
  · decide
  · decide
  · cases h

theorem isBlank_eq_false_of_isAlpha {c : Char} (h : c.isAlpha = true) : isBlank c = false := by
  obtain ⟨hlow, hhigh⟩ := Text.toNat_of_isAlpha h
  exact isBlank_eq_false_of_graphic (by omega) (by omega)

theorem isBlank_eq_false_of_continuesIdentifier {c : Char} (h : continuesIdentifier c = true) :
    isBlank c = false := by
  rcases Bool.or_eq_true_iff.1 h with h | h
  · rcases Bool.or_eq_true_iff.1 h with h | h
    · exact isBlank_eq_false_of_isAlpha h
    · exact isBlank_eq_false_of_isDecimalDigit (Text.isDecimalDigit_of_isDigit h)
  · obtain rfl := of_decide_eq_true h
    decide

theorem isBlank_eq_false_of_isOperatorChar {c : Char} (h : isOperatorChar c = true) :
    isBlank c = false := by
  have hall : ("-+*/%=<>!&|^~?.".toList.all fun c => !isBlank c) = true := by decide
  simpa using List.all_eq_true.1 hall c (List.contains_iff_mem.1 h)

theorem isBlank_eq_false_of_digit_or_underscore {c : Char}
    (h : (Text.isDecimalDigit c || decide (c = '_')) = true) : isBlank c = false := by
  simp only [Bool.or_eq_true, decide_eq_true_eq] at h
  rcases h with h | rfl
  · exact isBlank_eq_false_of_isDecimalDigit h
  · decide

/-! ### Numbers -/

theorem isPrefix_append_drop {s t r : Text} (hs : s <+: t) (hr : r <+: t.drop s.length) :
    s ++ r <+: t := by
  obtain ⟨u, rfl⟩ := hs
  rw [List.drop_left] at hr
  exact (List.prefix_append_right_inj s).2 hr

theorem prefixedInteger_isPrefix (t : Text) : prefixedInteger t <+: t := by
  fun_cases prefixedInteger t with
  | case1 | case2 | case4 => exact List.nil_prefix
  | case3 base rest isDigit =>
    simpa only [List.cons_prefix_cons, true_and] using List.takeWhile_prefix isDigit

theorem blankFree_prefixedInteger (t : Text) : BlankFree (prefixedInteger t) := by
  fun_cases prefixedInteger t with
  | case1 | case2 | case4 => exact blankFree_nil
  | case3 base rest isDigit hbase =>
    have hdigits : BlankFree (rest.takeWhile isDigit) :=
      blankFree_takeWhile (fun _ => isBlank_eq_false_of_isPrefixedDigit hbase) rest
    exact (hdigits.cons (isBlank_eq_false_of_base hbase)).cons (by decide)

theorem digits_isPrefix (t : Text) : digits t <+: t := by
  fun_cases digits t with
  | case1 | case3 => exact List.nil_prefix
  | case2 c rest => simpa using List.takeWhile_prefix _

theorem blankFree_digits (t : Text) : BlankFree (digits t) := by
  fun_cases digits t with
  | case1 | case3 => exact blankFree_nil
  | case2 c rest hc =>
    exact (blankFree_takeWhile (fun _ => isBlank_eq_false_of_digit_or_underscore) rest).cons
      (isBlank_eq_false_of_isDecimalDigit hc)

theorem fraction_isPrefix (t : Text) : fraction t <+: t := by
  fun_cases fraction t with
  | case1 | case3 => exact List.nil_prefix
  | case2 rest => simpa using digits_isPrefix rest

theorem blankFree_fraction (t : Text) : BlankFree (fraction t) := by
  fun_cases fraction t with
  | case1 | case3 => exact blankFree_nil
  | case2 rest => exact (blankFree_digits rest).cons (by decide)

theorem sign_isPrefix (t : Text) : sign t <+: t := by
  fun_cases sign t <;> simp

theorem blankFree_sign (t : Text) : BlankFree (sign t) := by
  fun_cases sign t with
  | case1 | case2 => exact blankFree_nil.cons (by decide)
  | case3 => exact blankFree_nil

theorem exponent_isPrefix (t : Text) : exponent t <+: t := by
  fun_cases exponent t with
  | case1 | case2 | case4 => exact List.nil_prefix
  | case3 c rest =>
    rw [List.cons_append, List.cons_prefix_cons]
    exact ⟨rfl, isPrefix_append_drop (sign_isPrefix rest) (digits_isPrefix _)⟩

theorem blankFree_exponent (t : Text) : BlankFree (exponent t) := by
  fun_cases exponent t with
  | case1 | case2 | case4 => exact blankFree_nil
  | case3 c rest hc =>
    have hletter : isBlank c = false := by
      simp only [Bool.or_eq_true, decide_eq_true_eq] at hc
      rcases hc with rfl | rfl <;> decide
    exact ((blankFree_sign rest).append (blankFree_digits _)).cons hletter

theorem decimal_isPrefix (t : Text) : (decimal t).2 <+: t := by
  simp only [decimal, List.append_assoc]
  exact isPrefix_append_drop (digits_isPrefix t)
    (isPrefix_append_drop (fraction_isPrefix _) (exponent_isPrefix _))

theorem blankFree_decimal (t : Text) : BlankFree (decimal t).2 :=
  ((blankFree_digits t).append (blankFree_fraction _)).append (blankFree_exponent _)

theorem decimal_kind_ne_punctuation (t : Text) (c : Char) : (decimal t).1 ≠ .punctuation c := by
  simp only [decimal]
  split <;> simp

/-! ### Lexemes -/

/-- A lexeme is the start of the text from which it is read. -/
theorem plain_isPrefix (c : Char) (rest : Text) : (plain c rest).2 <+: c :: rest := by
  fun_cases plain c rest with
  | case1 => exact prefixedInteger_isPrefix _
  | case2 => exact decimal_isPrefix _
  | case3 | case4 => simpa using List.takeWhile_prefix _
  | case5 => simp

/-- A lexeme that does not start with a blank has none inside. -/
theorem blankFree_plain {c : Char} (rest : Text) (hc : isBlank c = false) :
    BlankFree (plain c rest).2 := by
  fun_cases plain c rest with
  | case1 => exact blankFree_prefixedInteger _
  | case2 => exact blankFree_decimal _
  | case3 =>
    exact (blankFree_takeWhile (fun _ => isBlank_eq_false_of_continuesIdentifier) rest).cons hc
  | case4 =>
    exact (blankFree_takeWhile (fun _ => isBlank_eq_false_of_isOperatorChar) rest).cons hc
  | case5 => exact blankFree_nil.cons hc

theorem text_of_plain_punctuation {c d : Char} {rest : Text}
    (h : (plain c rest).1 = .punctuation d) : (plain c rest).2 = [d] := by
  revert h
  fun_cases plain c rest with
  | case1 | case3 | case4 => intro h; cases h
  | case2 => intro h; exact absurd h (decimal_kind_ne_punctuation _ _)
  | case5 => intro h; cases h; rfl

end Lexeme

end ColorLiteral
