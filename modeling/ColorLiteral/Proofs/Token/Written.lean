import ColorLiteral.Proofs.Token.Reach
import Mathlib.Data.Bool.AllAny

/-!
# Names and literals as they are written

A written name, numeral or string literal is read back as one token when a mark follows it, such as a
comma or a closing bracket (`readsAs_token`, `Body.readsAs`). Each part of a numeral ends where the
next part or the mark starts, since none of those starts with a digit or an underscore.

`ReadsAs` is what these facts are put together with: in front of a given text, another one is read
as some tokens, and reading goes on behind it.
-/

namespace ColorLiteral

namespace Written

open Text (isDecimalDigit)

/-! ### What is written -/

/-- A digit, then digits and underscores. -/
structure Digits where
  first : Char
  rest : Text
  first_isDigit : first.isDigit = true
  rest_isDigit : ∀ c ∈ rest, c.isDigit = true ∨ c = '_'

/-- The characters of some digits. -/
def Digits.text (d : Digits) : Text := d.first :: d.rest

/-- The sign of an exponent, if it is written. -/
inductive Sign
  | none
  | plus
  | minus

/-- The characters of a sign. -/
def Sign.text : Sign → Text
  | none => []
  | plus => ['+']
  | minus => ['-']

/-- An exponent: a letter, perhaps a sign, and digits. -/
structure Exponent where
  letter : Char
  sign : Sign
  power : Digits
  letter_eq : letter = 'e' ∨ letter = 'E'

/-- The characters of an exponent. -/
def Exponent.text (e : Exponent) : Text := e.letter :: (e.sign.text ++ e.power.text)

/-- A decimal number without a sign. -/
structure Numeral where
  whole : Digits
  fraction : Option Digits
  exponent : Option Exponent

namespace Numeral

/-- The point and the digits behind it. -/
def fractionText (n : Numeral) : Text := n.fraction.elim [] fun d => '.' :: d.text

/-- The exponent, if there is one. -/
def exponentText (n : Numeral) : Text := n.exponent.elim [] Exponent.text

/-- The characters of a numeral. -/
def text (n : Numeral) : Text := n.whole.text ++ (n.fractionText ++ n.exponentText)

/-- Whether a numeral has a fraction, an exponent or both. -/
def isFloat (n : Numeral) : Bool := n.fraction.isSome || n.exponent.isSome

/-- The kind of token that a numeral is. -/
def kind (n : Numeral) : TokenKind := if n.isFloat then .float else .integer

end Numeral

/-- A name: a letter or an underscore, then letters, digits and underscores. -/
structure Name where
  first : Char
  rest : Text
  first_isLetter : first.isAlpha = true ∨ first = '_'
  rest_isLetter : ∀ c ∈ rest, c.isAlphanum = true ∨ c = '_'

/-- The characters of a name. -/
def Name.text (n : Name) : Text := n.first :: n.rest

/-- What a string literal on one line holds when it hides nothing. -/
structure Body where
  text : Text
  plain : ∀ c ∈ text, c ≠ '"' ∧ c ≠ '\\' ∧ c ≠ '\n'

/-- A string literal with its quotes. -/
def Body.quoted (b : Body) : Text := '"' :: (b.text ++ ['"'])

/-! ### What may follow -/

/-- The marks that follow names and literals in an invocation. -/
def marks : Text := [',', ')', ':', '(']

/-- A text starts with a mark, or there is none. -/
def Delimited (t : Text) : Prop := ∀ c ∈ t.head?, c ∈ marks

/-- A text does not start with a digit or an underscore. -/
def NoDigitHead (t : Text) : Prop :=
  ∀ c ∈ t.head?, (isDecimalDigit c || decide (c = '_')) = false

theorem delimited_cons {c : Char} (hc : c ∈ marks) (t : Text) : Delimited (c :: t) := by
  intro d hd
  obtain rfl := Option.some.inj hd
  exact hc

/-- A mark is no part of any name, number or operator. -/
theorem marks_apart : ∀ c ∈ marks, (isDecimalDigit c || decide (c = '_')) = false ∧
    c ≠ '.' ∧ c ≠ 'e' ∧ c ≠ 'E' ∧ c ≠ '"' ∧ Lexeme.isPrefixedDigit c = none ∧
    Lexeme.continuesIdentifier c = false :=
  List.all_iff_forall_prop.1 (by decide)

variable {t : Text}

theorem noDigitHead_of_delimited (h : Delimited t) : NoDigitHead t :=
  fun c hc => (marks_apart c (h c hc)).1

theorem noDigitHead_exponent (n : Numeral) (ht : Delimited t) :
    NoDigitHead (n.exponentText ++ t) := by
  intro c hc
  cases hexponent : n.exponent with
  | none =>
    rw [Numeral.exponentText, hexponent] at hc
    exact noDigitHead_of_delimited ht c hc
  | some e =>
    rw [Numeral.exponentText, hexponent] at hc
    obtain rfl : e.letter = c := Option.some.inj hc
    rcases e.letter_eq with hletter | hletter <;> rw [hletter] <;> decide

theorem noDigitHead_fraction (n : Numeral) (ht : Delimited t) :
    NoDigitHead (n.fractionText ++ (n.exponentText ++ t)) := by
  intro c hc
  cases hfraction : n.fraction with
  | none =>
    rw [Numeral.fractionText, hfraction] at hc
    exact noDigitHead_exponent n ht c hc
  | some d =>
    rw [Numeral.fractionText, hfraction] at hc
    obtain rfl : '.' = c := Option.some.inj hc
    decide

/-! ### Numbers -/

theorem Digits.digits_append (d : Digits) (ht : NoDigitHead t) :
    Lexeme.digits (d.text ++ t) = d.text := by
  have hfirst := Text.isDecimalDigit_of_isDigit d.first_isDigit
  have hrest : ∀ c ∈ d.rest, (isDecimalDigit c || decide (c = '_')) = true := by
    intro c hc
    rcases d.rest_isDigit c hc with hdigit | rfl
    · rw [Text.isDecimalDigit_of_isDigit hdigit, Bool.true_or]
    · simp
  rw [Digits.text, List.cons_append, Lexeme.digits, if_pos hfirst,
    Text.takeWhile_append_of_head? hrest ht]

theorem Sign.sign_append (s : Sign) (d : Digits) (t : Text) :
    Lexeme.sign (s.text ++ (d.text ++ t)) = s.text := by
  cases s with
  | plus | minus => rfl
  | none =>
    refine Lexeme.sign_of_head? (fun h => ?_) fun h => ?_ <;>
    · have hdigit := d.first_isDigit
      rw [Option.some.inj h] at hdigit
      revert hdigit
      decide

namespace Numeral

variable (n : Numeral)

theorem exponent_append (ht : Delimited t) :
    Lexeme.exponent (n.exponentText ++ t) = n.exponentText := by
  cases hexponent : n.exponent with
  | none =>
    rw [exponentText, hexponent, Option.elim_none, List.nil_append]
    cases t with
    | nil => rfl
    | cons c t =>
      obtain ⟨-, -, he, hE, -⟩ := marks_apart c (ht c rfl)
      simp [Lexeme.exponent, he, hE]
  | some e =>
    have hletter : (decide (e.letter = 'e') || decide (e.letter = 'E')) = true := by
      simpa using e.letter_eq
    have hsign := e.sign.sign_append e.power t
    have hpower := e.power.digits_append (noDigitHead_of_delimited ht)
    have hsome : e.power.text.isEmpty = false := rfl
    rw [exponentText, hexponent, Option.elim_some, Exponent.text, List.cons_append,
      List.append_assoc, Lexeme.exponent, if_pos hletter, hsign, List.drop_left, hpower]
    simp only [hsome, Bool.false_eq_true, if_false, List.cons_append]

theorem fraction_append (ht : Delimited t) :
    Lexeme.fraction (n.fractionText ++ (n.exponentText ++ t)) = n.fractionText := by
  cases hfraction : n.fraction with
  | none =>
    rw [fractionText, hfraction, Option.elim_none, List.nil_append]
    refine Lexeme.fraction_of_head? fun h => ?_
    cases hexponent : n.exponent with
    | none =>
      rw [exponentText, hexponent] at h
      exact (marks_apart '.' (ht '.' h)).2.1 rfl
    | some e =>
      rw [exponentText, hexponent] at h
      obtain hpoint : e.letter = '.' := Option.some.inj h
      rcases e.letter_eq with hletter | hletter <;> rw [hletter] at hpoint <;> cases hpoint
  | some d =>
    have hdigits := d.digits_append (noDigitHead_exponent n ht)
    have hsome : d.text.isEmpty = false := rfl
    rw [fractionText, hfraction, Option.elim_some, List.cons_append, Lexeme.fraction, hdigits,
      hsome, if_neg Bool.false_ne_true]

theorem decimal_append (ht : Delimited t) : Lexeme.decimal (n.text ++ t) = (n.kind, n.text) := by
  have hwhole := n.whole.digits_append (noDigitHead_fraction n ht)
  have hfloat : (n.fractionText.isEmpty && n.exponentText.isEmpty) = !n.isFloat := by
    rw [isFloat, fractionText, exponentText]
    cases n.fraction <;> cases n.exponent <;> rfl
  rw [Lexeme.decimal, text, List.append_assoc, List.append_assoc, hwhole]
  simp only [List.drop_left, n.fraction_append ht, n.exponent_append ht, hfloat, kind]
  cases n.isFloat <;> simp

/-- What follows the first digit of a numeral is not the letter of another base. -/
theorem prefixedInteger_append (ht : Delimited t) : Lexeme.prefixedInteger (n.text ++ t) = [] := by
  have hnone (c : Char) (hc : c = '_' ∨ c = '.' ∨ c = 'e' ∨ c = 'E') :
      Lexeme.isPrefixedDigit c = none := by
    rcases hc with rfl | rfl | rfl | rfl <;> rfl
  have hbase : ∀ c ∈ (n.whole.rest ++ (n.fractionText ++ (n.exponentText ++ t))).head?,
      Lexeme.isPrefixedDigit c = none := by
    intro c hc
    cases hrest : n.whole.rest with
    | cons d rest =>
      rw [hrest] at hc
      obtain rfl : d = c := Option.some.inj hc
      rcases n.whole.rest_isDigit d (by simp [hrest]) with hdigit | rfl
      · fun_cases Lexeme.isPrefixedDigit d with
        | case1 | case2 | case3 => revert hdigit; decide
        | case4 => rfl
      · exact hnone _ (.inl rfl)
    | nil =>
      rw [hrest, List.nil_append, fractionText] at hc
      cases hfraction : n.fraction with
      | some d =>
        rw [hfraction] at hc
        obtain rfl : '.' = c := Option.some.inj hc
        exact hnone _ (.inr (.inl rfl))
      | none =>
        rw [hfraction, Option.elim_none, List.nil_append, exponentText] at hc
        cases hexponent : n.exponent with
        | some e =>
          rw [hexponent] at hc
          obtain rfl : e.letter = c := Option.some.inj hc
          exact hnone _ (.inr (.inr e.letter_eq))
        | none =>
          rw [hexponent] at hc
          exact (marks_apart c (ht c hc)).2.2.2.2.2.1
  have htext : n.text ++ t =
      n.whole.first :: (n.whole.rest ++ (n.fractionText ++ (n.exponentText ++ t))) := by
    simp [text, Digits.text]
  rw [htext]
  by_cases hzero : n.whole.first = '0'
  · rw [hzero]
    cases hbehind : n.whole.rest ++ (n.fractionText ++ (n.exponentText ++ t)) with
    | nil => rfl
    | cons c behind =>
      have hc := hbase c (by rw [hbehind]; rfl)
      simp only [Lexeme.prefixedInteger, hc]
  · exact Lexeme.prefixedInteger_of_ne hzero _

end Numeral

/-! ### Reading -/

/-- In front of a text, another one is read as some tokens, and reading goes on behind it. -/
def ReadsAs (offset : Nat) (s t : Text) (tokens : List Token) : Prop :=
  Token.readAllFrom offset (s ++ t) =
    (Token.readAllFrom (offset + s.length) t).map (tokens ++ ·)

theorem ReadsAs.append {offset : Nat} {s r : Text} {tokens tokens' : List Token}
    (hs : ReadsAs offset s (r ++ t) tokens) (hr : ReadsAs (offset + s.length) r t tokens') :
    ReadsAs offset (s ++ r) t (tokens ++ tokens') := by
  rw [ReadsAs] at hs hr ⊢
  rw [List.append_assoc, hs, hr, List.length_append, ← Nat.add_assoc]
  cases Token.readAllFrom (offset + s.length + r.length) t with
  | error e => rfl
  | ok others => exact congrArg Except.ok (List.append_assoc _ _ _).symm

theorem readsAs_nil (offset : Nat) (t : Text) : ReadsAs offset [] t [] := by
  show Token.readAllFrom offset t = (Token.readAllFrom offset t).map ([] ++ ·)
  cases Token.readAllFrom offset t <;> rfl

theorem readAll_of_readsAs {s : Text} {tokens : List Token} (h : ReadsAs 0 s [] tokens) :
    Token.readAll s = .ok tokens := by
  rw [ReadsAs, List.append_nil, Token.readAllFrom] at h
  rw [Token.readAll, h]
  exact congrArg Except.ok (List.append_nil _)

/-- A space in front changes nothing but the offset. -/
theorem ReadsAs.space {offset : Nat} {r : Text} {tokens : List Token}
    (h : ReadsAs (offset + 1) r t tokens) : ReadsAs offset (' ' :: r) t tokens := by
  have hblank : Text.IsBlanks [' '] := List.forall_mem_singleton.2 (by decide)
  have hspace := Token.readAllFrom_blanks hblank offset (r ++ t)
  rw [ReadsAs] at h ⊢
  rw [List.cons_append, ← List.singleton_append, hspace, List.length_singleton, h,
    List.length_cons, Nat.add_right_comm, Nat.add_assoc]

/-- A token that is read is what its characters are read as. -/
theorem readsAs_of_read {offset : Nat} {c : Char} {tail : Text} {token : Token}
    (hc : Text.isBlank c = false) (hstop : token.stop = offset + (c :: tail).length)
    (h : Token.read offset c (tail ++ t) = .ok (token, t)) :
    ReadsAs offset (c :: tail) t [token] := by
  rw [ReadsAs, List.cons_append, Token.readAllFrom_of_read hc h, hstop]
  rfl

/-- A lexeme is read as one token. -/
theorem readsAs_token {offset : Nat} {c : Char} {tail : Text} {kind : TokenKind}
    (hc : Text.isBlank c = false) (hquote : c ≠ '"')
    (h : Lexeme.plain c (tail ++ t) = (kind, c :: tail)) :
    ReadsAs offset (c :: tail) t [⟨kind, c :: tail, offset⟩] :=
  readsAs_of_read hc rfl (Token.read_plain hquote h)

/-- A mark is a token of its own, whatever follows it. -/
theorem ReadsAs.mark {offset : Nat} {c : Char} {r : Text} {tokens : List Token}
    (hc : c ∈ '#' :: marks) (h : ReadsAs (offset + 1) r t tokens) :
    ReadsAs offset (c :: r) t (⟨.punctuation c, [c], offset⟩ :: tokens) := by
  have hall : ∀ c ∈ '#' :: marks, Text.isBlank c = false ∧ c ≠ '"' ∧ c ≠ '0' ∧
      isDecimalDigit c = false ∧ Lexeme.startsIdentifier c = false ∧
      Lexeme.isOperatorChar c = false :=
    List.all_iff_forall_prop.1 (by decide)
  obtain ⟨hblank, hquote, hzero, hdigit, hletter, hoperator⟩ := hall c hc
  have hprefixed := Lexeme.prefixedInteger_of_ne hzero (r ++ t)
  have hplain : Lexeme.plain c ([] ++ (r ++ t)) = (.punctuation c, [c]) := by
    simp [Lexeme.plain, hprefixed, hdigit, hletter, hoperator]
  exact (readsAs_token hblank hquote hplain).append h

theorem Numeral.readsAs (n : Numeral) (offset : Nat) (ht : Delimited t) :
    ReadsAs offset n.text t [⟨n.kind, n.text, offset⟩] := by
  have hdigit := Text.isDecimalDigit_of_isDigit n.whole.first_isDigit
  show ReadsAs offset (n.whole.first :: (n.whole.rest ++ (n.fractionText ++ n.exponentText))) t _
  refine readsAs_token (Text.isBlank_eq_false_of_isDecimalDigit hdigit) ?_ ?_
  · intro hquote
    rw [hquote] at hdigit
    revert hdigit
    decide
  · have htext : n.whole.first :: (n.whole.rest ++ (n.fractionText ++ n.exponentText) ++ t) =
        n.text ++ t := rfl
    rw [Lexeme.plain, htext, n.prefixedInteger_append ht, n.decimal_append ht, if_pos hdigit]
    rfl

/-- A minus sign in front of a numeral is a token of its own. -/
theorem Numeral.readsAs_minus (n : Numeral) (offset : Nat) (t : Text) :
    ReadsAs offset ['-'] (n.text ++ t) [⟨.operator, ['-'], offset⟩] := by
  have hstop : Lexeme.isOperatorChar n.whole.first = false := by
    by_contra hoperator
    have hdigit := n.whole.first_isDigit
    have hmem := List.contains_iff_mem.1 (Bool.not_eq_false _ ▸ hoperator)
    have hall : ∀ c ∈ "-+*/%=<>!&|^~?.".toList, c.isDigit = false :=
      List.all_iff_forall_prop.1 (by decide)
    rw [hall _ hmem] at hdigit
    cases hdigit
  have htake : (n.text ++ t).takeWhile Lexeme.isOperatorChar = [] := by
    rw [Numeral.text, Digits.text, List.cons_append, List.cons_append,
      List.takeWhile_cons_of_neg (by simp [hstop])]
  refine readsAs_token (by decide) (by decide) ?_
  rw [List.nil_append, Lexeme.plain, Lexeme.prefixedInteger_of_ne (by decide), htake]
  rfl

theorem Name.readsAs (n : Name) (offset : Nat) (ht : Delimited t) :
    ReadsAs offset n.text t [⟨.identifier, n.text, offset⟩] := by
  have hstart : Lexeme.startsIdentifier n.first = true := by
    rcases n.first_isLetter with h | h <;> simp [Lexeme.startsIdentifier, h]
  have hapart : isDecimalDigit n.first = false := by
    rcases n.first_isLetter with h | h
    · exact Text.isDecimalDigit_of_isAlpha h
    · rw [h]
      decide
  have hne : ∀ c, Lexeme.startsIdentifier c = false → n.first ≠ c := by
    rintro c hc rfl
    rw [hc] at hstart
    cases hstart
  have hcontinues : ∀ c ∈ n.rest, Lexeme.continuesIdentifier c = true := by
    intro c hc
    rcases n.rest_isLetter c hc with h | h <;> simp [Lexeme.continuesIdentifier, h]
  have hblank : Text.isBlank n.first = false := by
    rcases n.first_isLetter with h | h
    · exact Lexeme.isBlank_eq_false_of_isAlpha h
    · rw [h]
      decide
  refine readsAs_token hblank (hne _ (by decide)) ?_
  rw [Lexeme.plain, Lexeme.prefixedInteger_of_ne (hne _ (by decide)),
    Text.takeWhile_append_of_head? hcontinues fun c hc => (marks_apart c (ht c hc)).2.2.2.2.2.2]
  simp [hapart, hstart]

/-! ### String literals -/

theorem Body.readLine_append (b : Body) (start offset : Nat) (t : Text) :
    StringLiteral.readLine start offset (b.text ++ '"' :: t) = .ok ⟨b.text, [], t⟩ := by
  obtain ⟨text, hplain⟩ := b
  induction text generalizing offset with
  | nil => simp [StringLiteral.readLine]
  | cons c text ih =>
    obtain ⟨⟨hquote, hback, hbreak⟩, htext⟩ := List.forall_mem_cons.1 hplain
    rw [List.cons_append, StringLiteral.readLine_plain _ _ _ hquote hback hbreak, ih _ htext]
    rfl

/-- The two quotes of an empty literal are not the start of a longer opening, since no third one
follows. -/
theorem Body.readsAs (b : Body) (offset : Nat) (ht : Delimited t) :
    ReadsAs offset b.quoted t [⟨.string [.plain b.text], b.quoted, offset⟩] := by
  have hquotes : ¬ ['"', '"'] <+: b.text ++ '"' :: t := by
    obtain ⟨text, hplain⟩ := b
    cases text with
    | nil =>
      rintro ⟨u, hu⟩
      have hhead : t.head? = some '"' := by
        rw [← (List.cons.inj hu).2]
        rfl
      exact (marks_apart '"' (ht '"' hhead)).2.2.2.2.1 rfl
    | cons c text =>
      intro hprefix
      obtain ⟨hc, -⟩ := List.cons_prefix_cons.1 hprefix
      exact (hplain c (List.mem_cons_self ..)).1 hc.symm
  have hcontents : StringLiteral.read offset (b.text ++ '"' :: t) = .ok ([.plain b.text], t) := by
    rw [StringLiteral.read_of_line offset hquotes, b.readLine_append]
    cases htext : b.text with
    | nil => rfl
    | cons c text => rfl
  refine readsAs_of_read (by decide) rfl ?_
  rw [List.append_assoc, List.singleton_append]
  exact Token.read_quote hcontents

end Written

end ColorLiteral
