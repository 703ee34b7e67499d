import ColorLiteral.Proofs.Token.Layout

/-!
# How far reading looks

A token hangs on its own characters and on the text behind it up to the next blank, and on nothing
else: not on its offset, not on the blanks, and not on what follows them (`read_reach`).

A lexeme is the same for the part of the text in front of the first blank, since each scanner stops
at a blank as it stops at the end of a text (`plain_upToBlank`). A string literal is read up to its
closing quotes (`StringLiteral.read_reach`).
-/

namespace ColorLiteral

namespace Text

/-! ### The text up to the first blank -/

/-- The part of a text in front of its first blank. -/
def upToBlank (t : Text) : Text := t.takeWhile (!isBlank ·)

theorem upToBlank_append {s : Text} (hs : BlankFree s) (t : Text) :
    upToBlank (s ++ t) = s ++ upToBlank t :=
  List.takeWhile_append_of_pos fun c hc => by simp [hs c hc]

theorem upToBlank_cons_of_blank {c : Char} (hc : isBlank c = true) (t : Text) :
    upToBlank (c :: t) = [] :=
  List.takeWhile_cons_of_neg (by simp [hc])

theorem upToBlank_cons {c : Char} (hc : isBlank c = false) (t : Text) :
    upToBlank (c :: t) = c :: upToBlank t :=
  List.takeWhile_cons_of_pos (by simp [hc])

theorem upToBlank_of_isBlanks {t : Text} (ht : IsBlanks t) : upToBlank t = [] := by
  cases t with
  | nil => rfl
  | cons c t => exact upToBlank_cons_of_blank (ht c (List.mem_cons_self ..)) t

theorem upToBlank_append_congr {t u : Text} (s : Text) (h : upToBlank t = upToBlank u) :
    upToBlank (s ++ t) = upToBlank (s ++ u) := by
  induction s with
  | nil => exact h
  | cons c s ih =>
    by_cases hc : isBlank c = true
    · rw [List.cons_append, List.cons_append, upToBlank_cons_of_blank hc,
        upToBlank_cons_of_blank hc]
    · have hc := Bool.eq_false_iff.2 hc
      rw [List.cons_append, List.cons_append, upToBlank_cons hc, upToBlank_cons hc, ih]

/-- Characters that are not blank are taken from the part in front of the first blank. -/
theorem takeWhile_upToBlank {p : Char → Bool} (hp : ∀ c, p c = true → isBlank c = false)
    (t : Text) : (upToBlank t).takeWhile p = t.takeWhile p := by
  rw [upToBlank, List.takeWhile_takeWhile]
  congr 1
  funext c
  cases hc : p c with
  | false => simp
  | true => simp [hp c hc]

theorem drop_upToBlank {s t : Text} (hs : s <+: t) (hfree : BlankFree s) :
    (upToBlank t).drop s.length = upToBlank (t.drop s.length) := by
  obtain ⟨u, rfl⟩ := hs
  rw [upToBlank_append hfree, List.drop_left, List.drop_left]

/-- A text that starts with a given character that is not blank. -/
theorem head?_upToBlank_eq_some_iff {c : Char} (hc : isBlank c = false) {t : Text} :
    (upToBlank t).head? = some c ↔ t.head? = some c := by
  cases t with
  | nil => rfl
  | cons d t =>
    by_cases hd : isBlank d = true
    · rw [upToBlank_cons_of_blank hd]
      simp only [List.head?_nil, List.head?_cons, Option.some.injEq, reduceCtorEq, false_iff]
      rintro rfl
      rw [hd] at hc
      cases hc
    · rw [upToBlank_cons (Bool.eq_false_iff.2 hd), List.head?_cons, List.head?_cons]

end Text

namespace Lexeme

open Text (isBlank upToBlank upToBlank_cons upToBlank_cons_of_blank takeWhile_upToBlank
  drop_upToBlank)

/-! ### Lexemes -/

theorem prefixedInteger_of_ne {c : Char} (hc : c ≠ '0') (t : Text) :
    prefixedInteger (c :: t) = [] := by
  rw [prefixedInteger]
  intro base rest heq
  exact hc (List.cons.inj heq).1

theorem prefixedInteger_upToBlank (t : Text) : prefixedInteger (upToBlank t) = prefixedInteger t := by
  have hzero : isBlank '0' = false := by decide
  rcases t with _ | ⟨c, rest⟩
  · rfl
  by_cases hc : c = '0'
  · subst hc
    rw [upToBlank_cons hzero]
    rcases rest with _ | ⟨base, rest⟩
    · rfl
    cases hbase : isPrefixedDigit base with
    | none =>
      by_cases hblank : isBlank base = true
      · rw [upToBlank_cons_of_blank hblank]
        simp [prefixedInteger, hbase]
      · rw [upToBlank_cons (Bool.eq_false_iff.2 hblank)]
        simp [prefixedInteger, hbase]
    | some isDigit =>
      have hdigits : (upToBlank rest).takeWhile isDigit = rest.takeWhile isDigit :=
        takeWhile_upToBlank (fun _ => isBlank_eq_false_of_isPrefixedDigit hbase) rest
      rw [upToBlank_cons (isBlank_eq_false_of_base hbase)]
      simp only [prefixedInteger, hbase, hdigits]
  · rw [prefixedInteger_of_ne hc]
    by_cases hblank : isBlank c = true
    · rw [upToBlank_cons_of_blank hblank]
      rfl
    · rw [upToBlank_cons (Bool.eq_false_iff.2 hblank), prefixedInteger_of_ne hc]

theorem digits_upToBlank (t : Text) : digits (upToBlank t) = digits t := by
  cases t with
  | nil => rfl
  | cons c rest =>
    by_cases hblank : isBlank c = true
    · have hc : Text.isDecimalDigit c = false := by
        by_contra hdigit
        have := Text.isBlank_eq_false_of_isDecimalDigit (Bool.not_eq_false _ ▸ hdigit)
        rw [hblank] at this
        cases this
      rw [upToBlank_cons_of_blank hblank]
      simp [digits, hc]
    · rw [upToBlank_cons (Bool.eq_false_iff.2 hblank), digits, digits,
        takeWhile_upToBlank fun _ => isBlank_eq_false_of_digit_or_underscore]

theorem fraction_of_head? {t : Text} (h : t.head? ≠ some '.') : fraction t = [] := by
  fun_cases fraction t with
  | case1 | case3 => rfl
  | case2 => exact absurd rfl h

theorem fraction_upToBlank (t : Text) : fraction (upToBlank t) = fraction t := by
  have hpoint : isBlank '.' = false := by decide
  by_cases h : t.head? = some '.'
  · obtain ⟨rest, rfl⟩ := List.head?_eq_some_iff.1 h
    rw [upToBlank_cons hpoint, fraction, fraction, digits_upToBlank]
  · have hhead := mt (Text.head?_upToBlank_eq_some_iff hpoint).1 h
    rw [fraction_of_head? h, fraction_of_head? hhead]

theorem sign_of_head? {t : Text} (hplus : t.head? ≠ some '+') (hminus : t.head? ≠ some '-') :
    sign t = [] := by
  fun_cases sign t with
  | case1 => exact absurd rfl hplus
  | case2 => exact absurd rfl hminus
  | case3 => rfl

theorem sign_upToBlank (t : Text) : sign (upToBlank t) = sign t := by
  fun_cases sign t with
  | case1 rest => rw [upToBlank_cons (by decide), sign]
  | case2 rest => rw [upToBlank_cons (by decide), sign]
  | case3 _ hplus hminus =>
    refine sign_of_head? (fun h => ?_) fun h => ?_
    · obtain ⟨rest, rfl⟩ :=
        List.head?_eq_some_iff.1 ((Text.head?_upToBlank_eq_some_iff (by decide)).1 h)
      exact hplus rest rfl
    · obtain ⟨rest, rfl⟩ :=
        List.head?_eq_some_iff.1 ((Text.head?_upToBlank_eq_some_iff (by decide)).1 h)
      exact hminus rest rfl

theorem exponent_upToBlank (t : Text) : exponent (upToBlank t) = exponent t := by
  cases t with
  | nil => rfl
  | cons c rest =>
    by_cases hblank : isBlank c = true
    · have hc : (decide (c = 'e') || decide (c = 'E')) = false := by
        simp only [Bool.or_eq_false_iff, decide_eq_false_iff_not]
        constructor <;> rintro rfl <;> exact absurd hblank (by decide)
      rw [upToBlank_cons_of_blank hblank]
      simp [exponent, hc]
    · have hpower := drop_upToBlank (sign_isPrefix rest) (blankFree_sign rest)
      rw [upToBlank_cons (Bool.eq_false_iff.2 hblank), exponent, exponent, sign_upToBlank, hpower,
        digits_upToBlank]

theorem decimal_upToBlank (t : Text) : decimal (upToBlank t) = decimal t := by
  have hrest := drop_upToBlank (digits_isPrefix t) (blankFree_digits t)
  have hpower := drop_upToBlank (fraction_isPrefix (t.drop (digits t).length))
    (blankFree_fraction _)
  simp only [decimal, digits_upToBlank, hrest, fraction_upToBlank, hpower, exponent_upToBlank]

/-- A lexeme hangs on the text up to the first blank only. -/
theorem plain_upToBlank {c : Char} (hc : isBlank c = false) (rest : Text) :
    plain c (upToBlank rest) = plain c rest := by
  have hcons : c :: upToBlank rest = upToBlank (c :: rest) := (upToBlank_cons hc rest).symm
  have hname : (upToBlank rest).takeWhile continuesIdentifier = rest.takeWhile continuesIdentifier :=
    takeWhile_upToBlank (fun _ => isBlank_eq_false_of_continuesIdentifier) rest
  have hoperator : (upToBlank rest).takeWhile isOperatorChar = rest.takeWhile isOperatorChar :=
    takeWhile_upToBlank (fun _ => isBlank_eq_false_of_isOperatorChar) rest
  rw [plain, plain, hname, hoperator, hcons, prefixedInteger_upToBlank, decimal_upToBlank]

end Lexeme

namespace Token

variable {start : Nat} {c : Char} {rest tail after : Text}

/-! ### Tokens -/

theorem read_quote {inside : Text} {segments : List Segment}
    (h : StringLiteral.read start (inside ++ '"' :: after) = .ok (segments, after)) :
    read start '"' (inside ++ '"' :: after) =
      .ok (⟨.string segments, '"' :: (inside ++ ['"']), start⟩, after) := by
  have hsplit : '"' :: (inside ++ '"' :: after) = ('"' :: (inside ++ ['"'])) ++ after := by simp
  have hlength : (inside ++ '"' :: after).length + 1 - after.length =
      ('"' :: (inside ++ ['"'])).length := by
    simp only [List.length_append, List.length_cons, List.length_nil]
    omega
  rw [read, if_pos rfl, h]
  simp only [Except.map, hlength, hsplit, List.take_left]

theorem read_plain {kind : TokenKind} (hquote : c ≠ '"')
    (h : Lexeme.plain c (tail ++ after) = (kind, c :: tail)) :
    read start c (tail ++ after) = .ok (⟨kind, c :: tail, start⟩, after) := by
  have hdrop : (c :: (tail ++ after)).drop (c :: tail).length = after := List.drop_left
  rw [read, if_neg hquote]
  simp only [h, hdrop]

/-- A token hangs on its characters and on the text behind it up to the next blank. -/
theorem read_reach {token : Token} (hc : Text.isBlank c = false)
    (h : read start c rest = .ok (token, after)) :
    ∃ tail, token.text = c :: tail ∧ rest = tail ++ after ∧ ∀ start' after',
      Text.upToBlank after' = Text.upToBlank after →
        read start' c (tail ++ after') = .ok ({ token with start := start' }, after') := by
  by_cases hquote : c = '"'
  · subst hquote
    have hstring := h
    rw [read, if_pos rfl] at hstring
    obtain ⟨⟨segments, behind⟩, hcontents, -⟩ := Outcome.exists_of_map_eq_ok hstring
    obtain ⟨inside, hinside, hreach⟩ := StringLiteral.read_reach hcontents
    dsimp only at hinside hreach
    subst hinside
    rw [read_quote hcontents] at h
    cases h
    refine ⟨inside ++ ['"'], rfl, by simp, fun start' after' hsame => ?_⟩
    have hhead : after'.head? = some '"' ↔ after.head? = some '"' := by
      rw [← Text.head?_upToBlank_eq_some_iff hc, hsame, Text.head?_upToBlank_eq_some_iff hc]
    rw [List.append_assoc, List.singleton_append, read_quote (hreach start' after' hhead)]
  · obtain ⟨hextent, -, hform⟩ := read_extent hc h
    obtain ⟨d, tail, htext⟩ := List.exists_cons_of_ne_nil hform.solid.ne_nil
    rw [htext, List.cons_append] at hextent
    obtain ⟨rfl, rfl⟩ := List.cons.inj hextent
    rw [read, if_neg hquote] at h
    refine ⟨tail, htext, rfl, fun start' after' hsame => ?_⟩
    have hplain : Lexeme.plain c (tail ++ after') = (token.kind, c :: tail) := by
      rw [← Lexeme.plain_upToBlank hc, Text.upToBlank_append_congr tail hsame,
        Lexeme.plain_upToBlank hc, ← htext]
      rw [Except.ok.injEq, Prod.mk.injEq] at h
      obtain ⟨rfl, -⟩ := h
      rfl
    rw [read_plain hquote hplain, ← htext]

/-! ### All tokens -/

theorem readAllFrom_blanks {gap : Text} (hgap : gap.IsBlanks) (offset : Nat) (t : Text) :
    readAllFrom offset (gap ++ t) = readAllFrom (offset + gap.length) t := by
  induction gap generalizing offset with
  | nil => rfl
  | cons d gap ih =>
    obtain ⟨hd, hgap⟩ := List.forall_mem_cons.1 hgap
    rw [List.cons_append, readAllFrom, if_pos hd, ih hgap, List.length_cons]
    congr 1
    omega

theorem readAllFrom_of_isBlanks (offset : Nat) {t : Text} (ht : t.IsBlanks) :
    readAllFrom offset t = .ok [] := by
  rw [← List.append_nil t, readAllFrom_blanks ht, readAllFrom]

end Token

end ColorLiteral
