import ColorLiteral.Proofs.Token.Mark

/-!
# The extent of a string literal

A literal that is read ends with a quote: what stands behind the opening quote is the inside of the
literal, its last quote and the text that is left, which can be any other text (`read_reach`). Only
the two quotes of an empty literal are taken for the opening of another kind of literal when a third
quote follows.
-/

namespace ColorLiteral.StringLiteral

/-! ### Steps of the readers -/

theorem readLine_interpolation {start offset : Nat} {rest inside after : Text}
    (h : Interpolation.split? ('(' :: rest) = some (inside, after)) :
    readLine start offset ('\\' :: '(' :: rest) =
      (readLine start (offset + 1 + inside.length) after).map
        (.pushInterpolation ('\\' :: inside)) := by
  rw [readLine]
  split
  · next hnone => rw [h] at hnone; cases hnone
  · next hsome => rw [h] at hsome; cases hsome; rfl

theorem readLine_plain (start offset : Nat) {c : Char} (rest : Text) (hquote : c ≠ '"')
    (hback : c ≠ '\\') (hbreak : c ≠ '\n') :
    readLine start offset (c :: rest) = (readLine start (offset + 1) rest).map (.push [c]) := by
  rw [readLine]
  · exact hquote
  · exact fun _ hc => absurd hc hback
  · exact fun _ _ hc => absurd hc hback
  · exact hbreak

theorem readBlock_interpolation {start offset : Nat} {blank : Bool} {rest inside after : Text}
    (h : Interpolation.split? ('(' :: rest) = some (inside, after)) :
    readBlock start offset blank ('\\' :: '(' :: rest) =
      (readBlock start (offset + 1 + inside.length) false after).map
        (.pushInterpolation ('\\' :: inside)) := by
  rw [readBlock]
  split
  · next hnone => rw [h] at hnone; cases hnone
  · next hsome => rw [h] at hsome; cases hsome; rfl

theorem readBlock_plain (start offset : Nat) (blank : Bool) {c : Char} {rest : Text}
    (hquotes : c = '"' → ¬ ['"', '"'] <+: rest) (hback : c ≠ '\\') (hbreak : c ≠ '\n') :
    readBlock start offset blank (c :: rest) =
      (readBlock start (offset + 1) (blank && Text.isBlank c) rest).map (.push [c]) := by
  rw [readBlock]
  · rintro u hc rfl
    exact hquotes hc ⟨u, rfl⟩
  · exact fun _ hc => absurd hc hback
  · exact fun _ _ hc => absurd hc hback
  · exact hbreak

/-- Two quotes are only an empty literal when no third one follows. -/
theorem read_of_line (start : Nat) {t : Text} (h : ¬ ['"', '"'] <+: t) :
    read start t = (readLine start (start + 1) t).map LineBody.contents := by
  have hno : ∀ u, t ≠ '"' :: '"' :: u := fun u heq => h ⟨u, heq.symm⟩
  rw [read]
  · exact fun _ heq => hno _ heq
  · exact fun _ heq => hno _ heq
  · exact fun _ heq => hno _ heq

/-- Whether a text starts with two quotes is seen without what follows the character behind its
first quote. -/
theorem quotes_isPrefix_congr (inside : Text) {after after' : Text}
    (h : after'.head? = some '"' ↔ after.head? = some '"') :
    ['"', '"'] <+: inside ++ '"' :: after' ↔ ['"', '"'] <+: inside ++ '"' :: after := by
  have hone (t : Text) : ['"'] <+: t ↔ t.head? = some '"' := by
    cases t <;> simp [eq_comm]
  match inside with
  | [] => simp only [List.nil_append, List.cons_prefix_cons, true_and, hone, h]
  | [d] => simp
  | d :: d' :: inside => simp

/-! ### Literals on one line -/

/-- A literal on one line is read up to its closing quote. -/
theorem readLine_reach {start offset : Nat} {t : Text} {b : LineBody}
    (h : readLine start offset t = .ok b) :
    ∃ inside, t = inside ++ '"' :: b.rest ∧ ∀ start' offset' after,
      readLine start' offset' (inside ++ '"' :: after) = .ok { b with rest := after } := by
  fun_induction readLine start offset t generalizing b with
  | case1 | case3 | case6 => cases h
  | case2 offset rest =>
    cases h
    exact ⟨[], rfl, fun _ _ _ => by simp [readLine]⟩
  | case4 offset rest first behind hsplit ih =>
    obtain ⟨body, hbody, rfl⟩ := Outcome.exists_of_map_eq_ok h
    obtain ⟨inside, rfl, hreach⟩ := ih hbody
    obtain ⟨tail, rfl, -⟩ := Interpolation.map_push_eq_some hsplit
    have hfirst := (Interpolation.append_of_splitFrom hsplit).1
    refine ⟨'\\' :: '(' :: (tail ++ inside), ?_, fun start' offset' after => ?_⟩
    · rw [← hfirst]
      simp [LineBody.pushInterpolation]
    · have hsame : Interpolation.split? ('(' :: (tail ++ (inside ++ '"' :: after))) =
          some ('(' :: tail, inside ++ '"' :: after) := Interpolation.splitFrom_append hsplit _
      rw [List.cons_append, List.cons_append, List.append_assoc, readLine_interpolation hsame,
        hreach]
      rfl
  | case5 offset c rest hopen ih =>
    obtain ⟨body, hbody, rfl⟩ := Outcome.exists_of_map_eq_ok h
    obtain ⟨inside, rfl, hreach⟩ := ih hbody
    refine ⟨'\\' :: c :: inside, rfl, fun start' offset' after => ?_⟩
    rw [List.cons_append, List.cons_append, readLine.eq_4 _ _ _ _ hopen, hreach]
    rfl
  | case7 offset c rest hquote _ hhidden hbreak ih =>
    obtain ⟨body, hbody, rfl⟩ := Outcome.exists_of_map_eq_ok h
    obtain ⟨inside, rfl, hreach⟩ := ih hbody
    have hback : c ≠ '\\' := by
      obtain ⟨d, u, hu⟩ := List.exists_cons_of_ne_nil (l := inside ++ '"' :: body.rest) (by simp)
      exact fun hc => hhidden d u hc hu
    refine ⟨c :: inside, rfl, fun start' offset' after => ?_⟩
    rw [List.cons_append, readLine_plain _ _ _ hquote hback hbreak, hreach]
    rfl

/-! ### Literals in triple quotes -/

/-- A literal in triple quotes is read up to its closing quotes. -/
theorem readBlock_reach {start offset : Nat} {blank : Bool} {t : Text} {b : BlockBody}
    (h : readBlock start offset blank t = .ok b) :
    ∃ inside, t = inside ++ '"' :: '"' :: '"' :: b.rest ∧ ∀ start' offset' after,
      readBlock start' offset' blank (inside ++ '"' :: '"' :: '"' :: after) =
        .ok { b with rest := after } := by
  fun_induction readBlock start offset blank t generalizing b with
  | case1 | case3 => cases h
  | case2 offset blank rest =>
    cases h
    exact ⟨[], rfl, fun _ _ _ => by simp [readBlock]⟩
  | case4 offset _ rest first behind hsplit ih =>
    obtain ⟨body, hbody, rfl⟩ := Outcome.exists_of_map_eq_ok h
    obtain ⟨inside, rfl, hreach⟩ := ih hbody
    obtain ⟨tail, rfl, -⟩ := Interpolation.map_push_eq_some hsplit
    have hfirst := (Interpolation.append_of_splitFrom hsplit).1
    refine ⟨'\\' :: '(' :: (tail ++ inside), ?_, fun start' offset' after => ?_⟩
    · rw [← hfirst]
      simp [BlockBody.pushInterpolation]
    · have hsame : Interpolation.split?
          ('(' :: (tail ++ (inside ++ '"' :: '"' :: '"' :: after))) =
            some ('(' :: tail, inside ++ '"' :: '"' :: '"' :: after) :=
        Interpolation.splitFrom_append hsplit _
      rw [List.cons_append, List.cons_append, List.append_assoc, readBlock_interpolation hsame,
        hreach]
      rfl
  | case5 offset _ c rest hopen ih =>
    obtain ⟨body, hbody, rfl⟩ := Outcome.exists_of_map_eq_ok h
    obtain ⟨inside, rfl, hreach⟩ := ih hbody
    refine ⟨'\\' :: c :: inside, rfl, fun start' offset' after => ?_⟩
    rw [List.cons_append, List.cons_append, readBlock.eq_4 _ _ _ _ _ hopen, hreach]
    rfl
  | case6 offset _ rest ih =>
    obtain ⟨body, hbody, rfl⟩ := Outcome.exists_of_map_eq_ok h
    obtain ⟨inside, rfl, hreach⟩ := ih hbody
    refine ⟨'\n' :: inside, rfl, fun start' offset' after => ?_⟩
    rw [List.cons_append, readBlock.eq_5, hreach]
    rfl
  | case7 offset _ c rest hquotes _ hhidden hbreak ih =>
    obtain ⟨body, hbody, rfl⟩ := Outcome.exists_of_map_eq_ok h
    obtain ⟨inside, rfl, hreach⟩ := ih hbody
    have hback : c ≠ '\\' := by
      obtain ⟨d, u, hu⟩ := List.exists_cons_of_ne_nil
        (l := inside ++ '"' :: '"' :: '"' :: body.rest) (by simp)
      exact fun hc => hhidden d u hc hu
    refine ⟨c :: inside, rfl, fun start' offset' after => ?_⟩
    have hclose : c = '"' → ¬ ['"', '"'] <+: inside ++ '"' :: '"' :: '"' :: after := by
      intro hc hprefix
      have hsame : ['"', '"'] <+: inside ++ '"' :: '"' :: '"' :: body.rest :=
        (quotes_isPrefix_congr inside (by simp)).1 hprefix
      obtain ⟨u, hu⟩ := hsame
      exact hquotes u hc hu.symm
    rw [List.cons_append, readBlock_plain _ _ _ hclose hback hbreak, hreach]
    rfl

/-- A literal is read up to its last quote. That a third quote follows the two quotes of an empty
literal shows in the text behind them. -/
theorem read_reach {start : Nat} {t : Text} {contents : Contents}
    (h : read start t = .ok contents) :
    ∃ inside, t = inside ++ '"' :: contents.2 ∧ ∀ start' after,
      (after.head? = some '"' ↔ contents.2.head? = some '"') →
        read start' (inside ++ '"' :: after) = .ok (contents.1, after) := by
  fun_cases read start t with
  | case1 rest =>
    obtain ⟨body, hbody, rfl⟩ := Outcome.exists_of_map_eq_ok h
    obtain ⟨inside, rfl, hreach⟩ := readBlock_reach hbody
    refine ⟨'"' :: '"' :: '\n' :: (inside ++ ['"', '"']), by simp [BlockBody.contents], ?_⟩
    intro start' after _
    simp only [List.cons_append, List.append_assoc, List.nil_append, read, hreach]
    rfl
  | case2 rest =>
    obtain ⟨body, hbody, rfl⟩ := Outcome.exists_of_map_eq_ok h
    obtain ⟨inside, rfl, hreach⟩ := readBlock_reach hbody
    refine ⟨'"' :: '"' :: '\r' :: '\n' :: (inside ++ ['"', '"']), by simp [BlockBody.contents], ?_⟩
    intro start' after _
    simp only [List.cons_append, List.append_assoc, List.nil_append, read, hreach]
    rfl
  | case3 rest hline hreturn =>
    rw [read] at h
    · cases h
    all_goals assumption
  | case4 t hline hreturn hquotes =>
    have hno : ¬ ['"', '"'] <+: t := by
      rintro ⟨u, hu⟩
      exact hquotes u hu.symm
    rw [read_of_line start hno] at h
    obtain ⟨body, hbody, rfl⟩ := Outcome.exists_of_map_eq_ok h
    obtain ⟨inside, rfl, hreach⟩ := readLine_reach hbody
    refine ⟨inside, rfl, fun start' after hhead => ?_⟩
    have hno' : ¬ ['"', '"'] <+: inside ++ '"' :: after :=
      fun hprefix => hno ((quotes_isPrefix_congr inside hhead).1 hprefix)
    rw [read_of_line start' hno', hreach]
    rfl

end ColorLiteral.StringLiteral
