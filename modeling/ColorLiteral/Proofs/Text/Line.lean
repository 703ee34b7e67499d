import ColorLiteral.Proofs.Token.Lexeme
import ColorLiteral.Text.Quoted

/-!
# Texts on one line

Texts without a line break: texts without blanks, digits, and texts in quotes, where a line break is
written as an escape (`isLine_quoted`).
-/

namespace ColorLiteral.Text

/-- A text has no line break. -/
def IsLine (t : Text) : Prop := '\n' ∉ t

instance (t : Text) : Decidable (IsLine t) := inferInstanceAs (Decidable ('\n' ∉ t))

variable {s t : Text}

theorem IsLine.append (hs : IsLine s) (ht : IsLine t) : IsLine (s ++ t) :=
  fun hmem => (List.mem_append.1 hmem).elim hs ht

theorem IsLine.cons {c : Char} (hc : c ≠ '\n') (ht : IsLine t) : IsLine (c :: t) :=
  List.not_mem_cons_of_ne_of_not_mem hc.symm ht

theorem isLine_nil : IsLine [] := List.not_mem_nil

theorem isLine_singleton {c : Char} (hc : c ≠ '\n') : IsLine [c] := isLine_nil.cons hc

theorem isLine_flatMap {α : Type} {f : α → Text} {xs : List α} (h : ∀ x ∈ xs, IsLine (f x)) :
    IsLine (xs.flatMap f) := by
  intro hmem
  obtain ⟨x, hx, hbreak⟩ := List.mem_flatMap.1 hmem
  exact h x hx hbreak

theorem BlankFree.isLine (h : BlankFree t) : IsLine t := by
  intro hmem
  cases h '\n' hmem

/-! ### Digits -/

theorem digitChar_ne_lineBreak : ∀ n < 16, Nat.digitChar n ≠ '\n' := by decide

theorem isLine_toDigits {base : Nat} (hbase : 1 < base ∧ base ≤ 16) (n : Nat) :
    IsLine (Nat.toDigits base n) := by
  induction n using Nat.strongRecOn with
  | ind n ih =>
    rw [Nat.toDigits_eq_if hbase.1]
    split
    · next hlt => exact isLine_singleton (digitChar_ne_lineBreak n (by omega))
    · next hle =>
      have hless : n / base < n := Nat.div_lt_self (by omega) hbase.1
      have hdigit : n % base < base := Nat.mod_lt n (by omega)
      exact (ih _ hless).append (isLine_singleton (digitChar_ne_lineBreak _ (by omega)))

theorem isLine_ofNat (n : Nat) : IsLine (ofNat n) := isLine_toDigits (by decide) n

theorem isLine_hexDigits (width n : Nat) : IsLine (hexDigits width n) := by
  refine IsLine.append (fun hmem => ?_) (isLine_toDigits (by decide) n)
  cases List.eq_of_mem_replicate hmem

/-! ### Texts in quotes -/

theorem isLine_escapeChar {quote : Char} (hquote : quote ≠ '\n') (c : Char) :
    IsLine (escapeChar quote c) := by
  have hback (t : Text) (ht : IsLine t) : IsLine ('\\' :: t) := ht.cons (by decide)
  unfold escapeChar
  split
  · next hmarked =>
    have hc : c = quote ∨ c = '\\' := by simpa using hmarked
    refine hback _ (isLine_singleton ?_)
    rcases hc with rfl | rfl
    · exact hquote
    · decide
  split
  · exact hback _ (isLine_singleton (by decide))
  split
  · exact hback _ (isLine_singleton (by decide))
  next hbreak =>
  split
  · exact hback _ (isLine_singleton (by decide))
  split
  · exact isLine_singleton hbreak
  split
  · exact hback _ ((isLine_hexDigits 2 _).cons (by decide))
  split
  · exact hback _ ((isLine_hexDigits 4 _).cons (by decide))
  · exact hback _ ((isLine_hexDigits 8 _).cons (by decide))

/-- A text in quotes is on one line, whatever the text. -/
theorem isLine_quoted (t : Text) : IsLine (quoted t) := by
  have hquote : quoteFor t ≠ '\n' := by
    unfold quoteFor
    split <;> decide
  have hinside : IsLine (t.flatMap (escapeChar (quoteFor t))) :=
    isLine_flatMap fun c _ => isLine_escapeChar hquote c
  exact (hinside.cons hquote).append (isLine_singleton hquote)

end ColorLiteral.Text
