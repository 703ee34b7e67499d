import ColorLiteral.Proofs.Token.Layout

/-!
# Trimming

Trimming takes blanks from both ends of a text (`exists_eq_trim`), and all of them: a solid text
between blanks is what is left of the whole (`trim_between`).
-/

namespace ColorLiteral.Text

theorem trimLeft_append {blanks t : Text} (hblanks : blanks.IsBlanks)
    (hhead : ∀ c ∈ t.head?, isBlank c = false) : trimLeft (blanks ++ t) = t := by
  rw [trimLeft, List.dropWhile_append_of_pos hblanks, dropWhile_eq_self_of_head? hhead]

theorem trimRight_append {t blanks : Text} (hlast : ∀ c ∈ t.getLast?, isBlank c = false)
    (hblanks : blanks.IsBlanks) : trimRight (t ++ blanks) = t := by
  have hreverse : ∀ c ∈ blanks.reverse, isBlank c = true :=
    fun c hc => hblanks c (List.mem_reverse.1 hc)
  have hhead : ∀ c ∈ t.reverse.head?, isBlank c = false := by
    rwa [List.head?_reverse]
  rw [trimRight, List.reverse_append, List.dropWhile_append_of_pos hreverse,
    dropWhile_eq_self_of_head? hhead, List.reverse_reverse]

/-- A solid text between blanks is what trimming leaves. -/
theorem trim_between {before t behind : Text} (hbefore : before.IsBlanks) (ht : t.IsSolid)
    (hbehind : behind.IsBlanks) : trim (before ++ (t ++ behind)) = t := by
  have hhead : ∀ c ∈ (t ++ behind).head?, isBlank c = false := by
    rw [List.head?_append_of_ne_nil _ ht.ne_nil]
    exact ht.head_not_blank
  rw [trim, trimLeft_append hbefore hhead, trimRight_append ht.last_not_blank hbehind]

/-- Only blanks are taken away. -/
theorem exists_eq_trim (t : Text) :
    ∃ before behind : Text, before.IsBlanks ∧ behind.IsBlanks ∧
      t = before ++ (trim t ++ behind) := by
  refine ⟨t.takeWhile isBlank, ((trimLeft t).reverse.takeWhile isBlank).reverse, ?_, ?_, ?_⟩
  · exact fun c hc => List.mem_takeWhile_imp hc
  · exact fun c hc => List.mem_takeWhile_imp (List.mem_reverse.1 hc)
  · have hright : trimLeft t =
        trim t ++ ((trimLeft t).reverse.takeWhile isBlank).reverse := by
      rw [trim, trimRight, ← List.reverse_append, List.takeWhile_append_dropWhile,
        List.reverse_reverse]
    rw [← hright, trimLeft, List.takeWhile_append_dropWhile]

end ColorLiteral.Text
