import ColorLiteral.Proofs.Text.Cut
import ColorLiteral.Proofs.Text.Hiding
import ColorLiteral.Proofs.Token.Stop

/-!
# Where an interpolation is closed

The brackets of a text are paired if each one that opens has one that closes behind it; brackets in
nested strings do not count (`IsBalanced`). Behind an opening bracket, every text is either balanced
up to the bracket that closes it, or it runs out before that (`closes_or_runsOut`): it ends, or a
nested string in it does not. So an interpolation is the shortest part of the source that starts at
its opening bracket, ends with a closing one and is balanced, and it is reported at its opening
bracket exactly if there is no such part (`endOf_shortest`).
-/

namespace ColorLiteral

namespace Text

/-- The shortest of the texts with a property that a text starts with. -/
structure IsShortestPrefix (P : Text → Prop) (t p : Text) : Prop where
  isPrefix : p <+: t
  holds : P p
  shortest : ∀ q, q <+: t → P q → p.length ≤ q.length

end Text

namespace Interpolation

variable {s t inside : Text}

/-! ### Paired brackets -/

/-- What can stand between the quotes of a nested string: no quote stands bare in it, and it does
not hide the closing one. -/
structure IsStringBody (inside : Text) : Prop where
  no_quote : ¬ inside.HasBare ['"']
  not_hidesNext : ¬ inside.HidesNext

/-- The brackets of a text are paired, when its nested strings are skipped. -/
inductive IsBalanced : Text → Prop
  | nil : IsBalanced []
  | char {c : Char} {t : Text} (hquote : c ≠ '"') (hopen : c ≠ '(') (hclose : c ≠ ')')
      (ht : IsBalanced t) : IsBalanced (c :: t)
  | nested {inside t : Text} (hinside : IsStringBody inside) (ht : IsBalanced t) :
      IsBalanced ('"' :: (inside ++ '"' :: t))
  | brackets {s t : Text} (hs : IsBalanced s) (ht : IsBalanced t) :
      IsBalanced ('(' :: (s ++ ')' :: t))

/-- A balanced text that ends with a closing bracket. -/
def IsClosed (p : Text) : Prop := IsBalanced p ∧ [')'] <:+ p

/-- Nothing in a text closes a bracket in front of it: the text ends, or a nested string in it is
not closed, also when that ends with a backslash, or another bracket opens in it and is not
closed. -/
inductive RunsOut : Text → Prop
  | ended {s : Text} (hs : IsBalanced s) : RunsOut s
  | unclosedString {s inside : Text} (hs : IsBalanced s) (hinside : ¬ inside.HasBare ['"']) :
      RunsOut (s ++ '"' :: inside)
  | opening {s t : Text} (hs : IsBalanced s) (ht : RunsOut t) : RunsOut (s ++ '(' :: t)

theorem IsBalanced.append (hs : IsBalanced s) (ht : IsBalanced t) : IsBalanced (s ++ t) := by
  induction hs with
  | nil => exact ht
  | char hquote hopen hclose _ ih => exact .char hquote hopen hclose ih
  | nested hinside _ ih =>
    rw [List.cons_append, List.append_assoc, List.cons_append]
    exact .nested hinside ih
  | brackets hs _ _ ih =>
    rw [List.cons_append, List.append_assoc, List.cons_append]
    exact .brackets hs ih

theorem RunsOut.prepend (hs : IsBalanced s) (ht : RunsOut t) : RunsOut (s ++ t) := by
  cases ht with
  | ended ht => exact .ended (hs.append ht)
  | unclosedString ht hinside =>
    rw [← List.append_assoc]
    exact .unclosedString (hs.append ht) hinside
  | opening ht htail =>
    rw [← List.append_assoc]
    exact .opening (hs.append ht) htail

/-- A text is balanced up to a closing bracket that has no partner in it, or it runs out. -/
def ClosesOrRunsOut (t : Text) : Prop :=
  (∃ s after, IsBalanced s ∧ t = s ++ ')' :: after) ∨ RunsOut t

theorem ClosesOrRunsOut.prepend (hs : IsBalanced s) (ht : ClosesOrRunsOut t) :
    ClosesOrRunsOut (s ++ t) := by
  obtain ⟨r, after, hr, rfl⟩ | hout := ht
  · exact .inl ⟨s ++ r, after, hs.append hr, (List.append_assoc ..).symm⟩
  · exact .inr (hout.prepend hs)

/-- Every text behind an opening bracket closes it or runs out. -/
theorem closes_or_runsOut (t : Text) : ClosesOrRunsOut t := by
  -- what is balanced at the start is taken off, so the recursion is on the length of the rest
  match t with
  | [] => exact .inr (.ended .nil)
  | c :: rest =>
    by_cases hclose : c = ')'
    · subst hclose
      exact .inl ⟨[], rest, .nil, rfl⟩
    by_cases hopen : c = '('
    · subst hopen
      obtain ⟨s, after, hs, rfl⟩ | hout := closes_or_runsOut rest
      · have hbrackets : IsBalanced ('(' :: (s ++ [')'])) := .brackets hs .nil
        have hlater := (closes_or_runsOut after).prepend hbrackets
        rwa [List.cons_append, List.append_assoc] at hlater
      · exact .inr (.opening .nil hout)
    by_cases hquote : c = '"'
    · subst hquote
      by_cases hbare : Text.HasBare rest ['"']
      · obtain ⟨inside, after, rfl, hfirst, hhides⟩ := Text.exists_first_bare hbare
        have hnested : IsBalanced ('"' :: (inside ++ ['"'])) := .nested ⟨hfirst, hhides⟩ .nil
        have hlater := (closes_or_runsOut after).prepend hnested
        rwa [List.cons_append, List.append_assoc] at hlater
      · exact .inr (.unclosedString .nil hbare)
    · exact (closes_or_runsOut rest).prepend (.char hquote hopen hclose .nil)
termination_by t.length
decreasing_by all_goals simp_all only [List.length_cons, List.length_append]; omega

/-! ### Steps of the scan -/

/-- Puts a text in front of the first part of a split text. -/
def pushText (s : Text) (split : Text × Text) : Text × Text := (s ++ split.1, split.2)

theorem map_pushText_nil (split : Option (Text × Text)) : split.map (pushText []) = split := by
  cases split <;> rfl

theorem map_pushText_append (r s : Text) (split : Option (Text × Text)) :
    (split.map (pushText s)).map (pushText r) = split.map (pushText (r ++ s)) := by
  cases split <;> simp [pushText]

theorem splitFrom_quote (depth : Nat) (t : Text) :
    splitFrom .code depth ('"' :: t) = (splitFrom .nested depth t).map (pushText ['"']) := by
  rw [splitFrom, if_pos rfl]
  rfl

theorem splitFrom_opening (depth : Nat) (t : Text) :
    splitFrom .code depth ('(' :: t) = (splitFrom .code (depth + 1) t).map (pushText ['(']) := by
  rw [splitFrom, if_neg (by decide), if_pos rfl]
  rfl

theorem splitFrom_closing (depth : Nat) (t : Text) :
    splitFrom .code (depth + 2) (')' :: t) =
      (splitFrom .code (depth + 1) t).map (pushText [')']) := by
  rw [splitFrom, if_neg (by decide), if_neg (by decide), if_pos rfl, if_neg (by omega)]
  rfl

theorem splitFrom_last_closing (t : Text) : splitFrom .code 1 (')' :: t) = some ([')'], t) := by
  rw [splitFrom, if_neg (by decide), if_neg (by decide), if_pos rfl, if_pos rfl]

theorem splitFrom_char {c : Char} (hquote : c ≠ '"') (hopen : c ≠ '(') (hclose : c ≠ ')')
    (depth : Nat) (t : Text) :
    splitFrom .code depth (c :: t) = (splitFrom .code depth t).map (pushText [c]) := by
  rw [splitFrom, if_neg hquote, if_neg hopen, if_neg hclose]
  rfl

/-- Where the scan stands behind a part of a nested string. -/
def placeBehind (inside : Text) : Place := if inside.HidesNext then .hidden else .nested

theorem splitFrom_placeBehind {c : Char} (hquote : c = '"' → inside.HidesNext) (depth : Nat)
    (t : Text) :
    splitFrom (placeBehind inside) depth (c :: t) =
      (splitFrom (placeBehind (inside ++ [c])) depth t).map (pushText [c]) := by
  simp only [placeBehind, Text.hidesNext_concat]
  by_cases hhides : inside.HidesNext
  · rw [if_pos hhides, if_neg fun h => h.2 hhides, splitFrom]
    rfl
  · have hc : c ≠ '"' := fun hc => hhides (hquote hc)
    by_cases hback : c = '\\'
    · rw [if_neg hhides, if_pos ⟨hback, hhides⟩, splitFrom, if_neg hc, if_pos hback]
      rfl
    · rw [if_neg hhides, if_neg fun h => hback h.1, splitFrom, if_neg hc, if_neg hback]
      rfl

/-- The scan stays in a nested string as long as no quote stands bare in what it has passed. -/
theorem splitFrom_inside (hinside : ¬ inside.HasBare ['"']) (depth : Nat) (t : Text) :
    splitFrom .nested depth (inside ++ t) =
      (splitFrom (placeBehind inside) depth t).map (pushText inside) := by
  -- from the last character on, since what hides a character stands in front of it
  induction inside using List.reverseRecOn generalizing t with
  | nil => rw [placeBehind, if_neg Text.not_hidesNext_nil, map_pushText_nil, List.nil_append]
  | append_singleton passed c ih =>
    rw [Text.hasBare_concat, not_or, not_and_not_right] at hinside
    rw [List.append_assoc, ih hinside.1, List.singleton_append, splitFrom_placeBehind hinside.2,
      map_pushText_append]

theorem splitFrom_unclosedString (hinside : ¬ inside.HasBare ['"']) (depth : Nat) :
    splitFrom .nested depth inside = none := by
  have hend := splitFrom_inside hinside depth []
  rw [List.append_nil] at hend
  rw [hend, splitFrom.eq_1]
  rfl

theorem splitFrom_nested (hinside : IsStringBody inside) (depth : Nat) (t : Text) :
    splitFrom .nested depth (inside ++ '"' :: t) =
      (splitFrom .code depth t).map (pushText (inside ++ ['"'])) := by
  rw [splitFrom_inside hinside.no_quote, placeBehind, if_neg hinside.not_hidesNext, splitFrom,
    if_pos rfl, ← map_pushText_append]
  rfl

/-- The scan goes through a balanced text and comes out of it at the same depth. -/
theorem splitFrom_balanced (hs : IsBalanced s) (depth : Nat) (t : Text) :
    splitFrom .code (depth + 1) (s ++ t) =
      (splitFrom .code (depth + 1) t).map (pushText s) := by
  induction hs generalizing depth t with
  | nil => exact (map_pushText_nil _).symm
  | char hquote hopen hclose _ ih =>
    rw [List.cons_append, splitFrom_char hquote hopen hclose, ih, map_pushText_append]
    rfl
  | nested hinside _ ih =>
    rw [List.cons_append, List.append_assoc, List.cons_append, splitFrom_quote,
      splitFrom_nested hinside, ih, map_pushText_append, map_pushText_append]
    simp
  | brackets _ _ ihs iht =>
    rw [List.cons_append, List.append_assoc, List.cons_append, splitFrom_opening, ihs,
      splitFrom_closing, iht]
    simp only [map_pushText_append]
    rfl

/-! ### Splits -/

/-- A text is split behind the bracket that closes the opening one. -/
theorem split?_brackets (hs : IsBalanced s) (t : Text) :
    split? ('(' :: (s ++ ')' :: t)) = some ('(' :: (s ++ [')']), t) := by
  rw [split?, splitFrom_opening, splitFrom_balanced hs, splitFrom_last_closing]
  rfl

theorem RunsOut.splitFrom_eq_none (ht : RunsOut t) (depth : Nat) :
    splitFrom .code (depth + 1) t = none := by
  induction ht generalizing depth with
  | @ended s hs =>
    have hend := splitFrom_balanced hs depth []
    rwa [List.append_nil] at hend
  | unclosedString hs hinside =>
    rw [splitFrom_balanced hs, splitFrom_quote, splitFrom_unclosedString hinside]
    rfl
  | opening hs _ ih =>
    rw [splitFrom_balanced hs, splitFrom_opening, ih]
    rfl

theorem split?_eq_none_iff : split? ('(' :: t) = none ↔ RunsOut t := by
  constructor
  · intro hnone
    obtain ⟨s, after, hs, rfl⟩ | hout := closes_or_runsOut t
    · rw [split?_brackets hs] at hnone
      cases hnone
    · exact hout
  · intro hout
    rw [split?, splitFrom_opening, hout.splitFrom_eq_none]
    rfl

theorem split?_eq_some_iff {p rest : Text} : split? ('(' :: t) = some (p, rest) ↔
    ∃ s, IsBalanced s ∧ t = s ++ ')' :: rest ∧ p = '(' :: (s ++ [')']) := by
  constructor
  · intro hsome
    obtain ⟨s, after, hs, rfl⟩ | hout := closes_or_runsOut t
    · rw [split?_brackets hs] at hsome
      cases hsome
      exact ⟨s, hs, rfl, rfl⟩
    · rw [split?_eq_none_iff.2 hout] at hsome
      cases hsome
  · rintro ⟨s, hs, rfl, rfl⟩
    exact split?_brackets hs rest

/-! ### The shortest closed part -/

/-- The first part of a split is closed. -/
theorem isClosed_of_split? {p rest : Text} (h : split? ('(' :: t) = some (p, rest)) :
    IsClosed p ∧ p <+: '(' :: t := by
  obtain ⟨s, hs, rfl, rfl⟩ := split?_eq_some_iff.1 h
  exact ⟨⟨.brackets hs .nil, '(' :: s, rfl⟩, rest, by simp⟩

/-- A text that starts with a closed text is split in it or behind it. -/
theorem IsClosed.exists_split {q : Text} (h : IsClosed q) (hq : q <+: '(' :: t) :
    ∃ p rest, split? ('(' :: t) = some (p, rest) ∧ p <+: q := by
  obtain ⟨hbalanced, hlast⟩ := h
  obtain ⟨u, hu⟩ := hq
  cases hbalanced with
  | nil => simp at hlast
  | char _ hopen => exact absurd (List.cons.inj hu).1 hopen
  | nested => cases (List.cons.inj hu).1
  | @brackets s r hs =>
    have ht : t = s ++ ')' :: (r ++ u) := by simpa using (List.cons.inj hu).2.symm
    exact ⟨_, r ++ u, by rw [ht]; exact split?_brackets hs (r ++ u), r, by simp⟩

theorem isShortestPrefix_iff {p : Text} :
    Text.IsShortestPrefix IsClosed ('(' :: t) p ↔ ∃ rest, split? ('(' :: t) = some (p, rest) := by
  constructor
  · rintro ⟨hstarts, hclosed, hshortest⟩
    obtain ⟨first, rest, hsplit, hfirst⟩ := hclosed.exists_split hstarts
    obtain ⟨hclosed', hstarts'⟩ := isClosed_of_split? hsplit
    obtain rfl := hfirst.eq_of_length_le (hshortest first hstarts' hclosed')
    exact ⟨rest, hsplit⟩
  · rintro ⟨rest, hsplit⟩
    obtain ⟨hclosed, hstarts⟩ := isClosed_of_split? hsplit
    refine ⟨hstarts, hclosed, fun q hq hclosed' => ?_⟩
    obtain ⟨first, rest', hsplit', hfirst⟩ := hclosed'.exists_split hq
    rw [hsplit] at hsplit'
    cases hsplit'
    exact hfirst.length_le

theorem split?_eq_none_iff_forall :
    split? ('(' :: t) = none ↔ ∀ p, p <+: '(' :: t → ¬ IsClosed p := by
  constructor
  · intro hnone p hp hclosed
    obtain ⟨first, rest, hsplit, -⟩ := hclosed.exists_split hp
    rw [hnone] at hsplit
    cases hsplit
  · intro hno
    cases hsplit : split? ('(' :: t) with
    | none => rfl
    | some parts =>
      obtain ⟨hclosed, hstarts⟩ := isClosed_of_split? hsplit
      exact absurd hclosed (hno _ hstarts)

/-! ### Offsets in a source -/

/-- The offset behind the interpolation that a bracket at an offset opens, or the report that
nothing closes this bracket. -/
def endOf (source : Text) (pos : Nat) : Except ParseError Nat :=
  match split? (source.drop pos) with
  | none => .error ⟨.unterminatedInterpolation, pos⟩
  | some (inside, _) => .ok (pos + inside.length)

variable {source after : Text} {pos : Nat}

theorem endOf_of_split?_eq_none (h : split? (source.drop pos) = none) :
    endOf source pos = .error ⟨.unterminatedInterpolation, pos⟩ := by
  rw [endOf, h]

theorem endOf_of_split?_eq_some (h : split? (source.drop pos) = some (inside, after)) :
    endOf source pos = .ok (pos + inside.length) := by
  rw [endOf, h]

/-- What a source is split into stands in front of the end and behind it. -/
theorem parts_of_split? (h : split? (source.drop pos) = some (inside, after)) :
    inside <+: source.drop pos ∧ inside ≠ [] ∧ source.drop (pos + inside.length) = after := by
  obtain ⟨heq, hne⟩ := append_of_splitFrom h
  refine ⟨⟨after, heq⟩, hne, ?_⟩
  rw [← List.drop_drop, ← heq, List.drop_left]

theorem endOf_eq_ok_iff (hopen : source[pos]? = some '(') {e : Nat} : endOf source pos = .ok e ↔
    pos < e ∧ e ≤ source.length ∧
      Text.IsShortestPrefix IsClosed (source.drop pos) (source.slice pos e) := by
  have hdrop := Text.drop_eq_cons hopen
  constructor
  · intro hend
    cases hsplit : split? (source.drop pos) with
    | none =>
      rw [endOf_of_split?_eq_none hsplit] at hend
      cases hend
    | some parts =>
      rw [endOf_of_split?_eq_some hsplit] at hend
      cases hend
      obtain ⟨hstarts, hne, -⟩ := parts_of_split? hsplit
      have hpos := List.length_pos_iff.2 hne
      have hle := hstarts.length_le
      rw [List.length_drop] at hle
      refine ⟨by omega, by omega, ?_⟩
      rw [Text.slice_eq_of_isPrefix hstarts]
      rw [hdrop] at hsplit ⊢
      exact isShortestPrefix_iff.2 ⟨_, hsplit⟩
  · rintro ⟨hlt, hle, hshortest⟩
    rw [hdrop, isShortestPrefix_iff, ← hdrop] at hshortest
    obtain ⟨after, hsplit⟩ := hshortest
    have hlength : (source.slice pos e).length = e - pos := by
      rw [Text.slice, List.length_take, List.length_drop]
      omega
    rw [endOf_of_split?_eq_some hsplit, hlength, Nat.add_sub_cancel' (Nat.le_of_lt hlt)]

theorem endOf_eq_error_iff :
    endOf source pos = .error ⟨.unterminatedInterpolation, pos⟩ ↔
      split? (source.drop pos) = none := by
  refine ⟨fun hend => ?_, endOf_of_split?_eq_none⟩
  cases hsplit : split? (source.drop pos) with
  | none => rfl
  | some parts =>
    rw [endOf_of_split?_eq_some hsplit] at hend
    cases hend

end Interpolation

namespace StringLiteral

open Interpolation (endOf split?)

variable {source : Text} {offset : Nat}

/-- A literal cannot go on at a bracket that nothing closes. -/
theorem deadEnd_of_split?_eq_none (form : LiteralForm) (start : Nat)
    (hback : source[offset]? = some '\\') (hopen : source[offset + 1]? = some '(')
    (hsplit : split? (source.drop (offset + 1)) = none) :
    DeadEnd form start offset (source.drop offset) ⟨.unterminatedInterpolation, offset + 1⟩ := by
  rw [Text.drop_eq_cons hopen] at hsplit
  rw [Text.drop_eq_cons hback, Text.drop_eq_cons hopen]
  exact .unclosed hsplit

/-- The piece of an interpolation is the source from its backslash to its end. -/
theorem slice_of_split? {inside after : Text} (hback : source[offset]? = some '\\')
    (hsplit : split? (source.drop (offset + 1)) = some (inside, after)) :
    source.slice offset (offset + 1 + inside.length) = '\\' :: inside := by
  have hstarts : '\\' :: inside <+: source.drop offset := by
    rw [Text.drop_eq_cons hback]
    exact List.cons_prefix_cons.2 ⟨rfl, (Interpolation.parts_of_split? hsplit).1⟩
  have hslice := Text.slice_eq_of_isPrefix hstarts
  rwa [List.length_cons, Nat.add_comm inside.length 1, ← Nat.add_assoc] at hslice

/-- At a backslash in front of a bracket, a literal on one line is read on behind the end of the
interpolation. -/
theorem readLine_endOf (start : Nat) (hback : source[offset]? = some '\\')
    (hopen : source[offset + 1]? = some '(') :
    readLine start offset (source.drop offset) =
      endOf source (offset + 1) >>= fun e =>
        (readLine start e (source.drop e)).map (.pushInterpolation (source.slice offset e)) := by
  cases hsplit : split? (source.drop (offset + 1)) with
  | none =>
    rw [Interpolation.endOf_of_split?_eq_none hsplit]
    exact (deadEnd_of_split?_eq_none .line start hback hopen hsplit).readLine_eq
  | some parts =>
    have hafter := (Interpolation.parts_of_split? hsplit).2.2
    have hslice := slice_of_split? hback hsplit
    rw [Interpolation.endOf_of_split?_eq_some hsplit, Text.drop_eq_cons hback,
      Text.drop_eq_cons hopen]
    rw [Text.drop_eq_cons hopen] at hsplit
    rw [readLine_interpolation hsplit, ← hslice, ← hafter]
    rfl

/-- The same for a literal in triple quotes, which has no blank line behind an interpolation. -/
theorem readBlock_endOf (start : Nat) (blank : Bool) (hback : source[offset]? = some '\\')
    (hopen : source[offset + 1]? = some '(') :
    readBlock start offset blank (source.drop offset) =
      endOf source (offset + 1) >>= fun e =>
        (readBlock start e false (source.drop e)).map
          (.pushInterpolation (source.slice offset e)) := by
  cases hsplit : split? (source.drop (offset + 1)) with
  | none =>
    rw [Interpolation.endOf_of_split?_eq_none hsplit]
    exact (deadEnd_of_split?_eq_none .block start hback hopen hsplit).readBlock_eq
  | some parts =>
    have hafter := (Interpolation.parts_of_split? hsplit).2.2
    have hslice := slice_of_split? hback hsplit
    rw [Interpolation.endOf_of_split?_eq_some hsplit, Text.drop_eq_cons hback,
      Text.drop_eq_cons hopen]
    rw [Text.drop_eq_cons hopen] at hsplit
    rw [readBlock_interpolation hsplit, ← hslice, ← hafter]
    rfl

end StringLiteral

namespace Interpolation

open StringLiteral

/-- An interpolation ends behind the shortest closed text that the source has at its opening
bracket. If no text there is closed, so that the source runs out behind the bracket, this bracket is
where the error is reported. Behind a backslash both forms of literals go on at that end, or report
that error. -/
theorem endOf_shortest {source : Text} {pos : Nat} (hopen : source[pos]? = some '(') :
    (∀ e, endOf source pos = .ok e ↔ pos < e ∧ e ≤ source.length ∧
      Text.IsShortestPrefix IsClosed (source.drop pos) (source.slice pos e)) ∧
    ((∀ p, p <+: source.drop pos → ¬ IsClosed p) ↔
      endOf source pos = .error ⟨.unterminatedInterpolation, pos⟩) ∧
    (RunsOut (source.drop (pos + 1)) ↔
      endOf source pos = .error ⟨.unterminatedInterpolation, pos⟩) ∧
    ∀ start offset blank, offset + 1 = pos → source[offset]? = some '\\' →
      readLine start offset (source.drop offset) =
        (endOf source pos >>= fun e =>
          (readLine start e (source.drop e)).map (.pushInterpolation (source.slice offset e))) ∧
      readBlock start offset blank (source.drop offset) =
        (endOf source pos >>= fun e =>
          (readBlock start e false (source.drop e)).map
            (.pushInterpolation (source.slice offset e))) := by
  refine ⟨fun e => endOf_eq_ok_iff hopen, ?_, ?_, ?_⟩
  · rw [endOf_eq_error_iff, Text.drop_eq_cons hopen]
    exact split?_eq_none_iff_forall.symm
  · rw [endOf_eq_error_iff, Text.drop_eq_cons hopen]
    exact split?_eq_none_iff.symm
  · rintro start offset blank rfl hback
    exact ⟨readLine_endOf start hback hopen, readBlock_endOf start blank hback hopen⟩

/-- A nested string with brackets and a hidden quote is skipped, and one that ends with a backslash
runs out, so the literal around it is reported at the bracket. -/
theorem endOf_shortest_nested :
    ("\\(f(\")\\\")\"))\"".toList[1]? = some '(' ∧
      endOf "\\(f(\")\\\")\"))\"".toList 1 = .ok 12 ∧
      Text.IsShortestPrefix IsClosed "(f(\")\\\")\"))\"".toList "(f(\")\\\")\"))".toList) ∧
    ("\\(\"a)\\".toList[1]? = some '(' ∧
      endOf "\\(\"a)\\".toList 1 = .error ⟨.unterminatedInterpolation, 1⟩ ∧
      RunsOut "\"a)\\".toList ∧
      "\\(\"a)\\".toList[0]? = some '\\' ∧
      readLine 7 0 "\\(\"a)\\".toList = .error ⟨.unterminatedInterpolation, 1⟩) := by
  have hend : endOf "\\(f(\")\\\")\"))\"".toList 1 = .ok 12 := by decide +kernel
  have herror : endOf "\\(\"a)\\".toList 1 = .error ⟨.unterminatedInterpolation, 1⟩ := by
    decide +kernel
  obtain ⟨-, -, hout, hreaders⟩ := @endOf_shortest "\\(\"a)\\".toList 1 (by decide)
  obtain ⟨hline, -⟩ := hreaders 7 0 false rfl (by decide)
  rw [herror] at hline
  exact ⟨⟨by decide, hend, (((endOf_shortest (by decide)).1 12).1 hend).2.2⟩,
    by decide, herror, hout.2 herror, by decide, hline⟩

end Interpolation

end ColorLiteral
