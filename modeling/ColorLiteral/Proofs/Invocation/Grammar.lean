import ColorLiteral.Invocation
import Mathlib.Data.List.Basic

/-!
# The grammar of invocations

Which lists of tokens are invocations, said without a machine: `#`, a name that touches it, and
runs of tokens between parentheses (`IsInvocation`). The runs are separated by single commas. In
each of them the brackets are nested and matched, and no comma stands outside all brackets.

`splitRuns_iff` says that the machine with a stack splits exactly the lists that the grammar allows,
and in the way the grammar does. The invariant of the machine is `Pending`: the run under way is
what the grammar allows in front of the closing brackets that the stack still asks for.
-/

namespace ColorLiteral

namespace Token

/-! ### Brackets and commas -/

/-- The opening brackets and the brackets that close them. -/
def bracketPairs : List (Char × Char) := [('(', ')'), ('[', ']'), ('{', '}')]

/-- A token is a bracket. -/
def IsBracket (token : Token) : Prop :=
  ∃ pair ∈ bracketPairs, token.kind = .punctuation pair.1 ∨ token.kind = .punctuation pair.2

/-- Two tokens are an opening bracket and the bracket that closes it. -/
def Encloses (opener closer : Token) : Prop :=
  ∃ pair ∈ bracketPairs, opener.kind = .punctuation pair.1 ∧ closer.kind = .punctuation pair.2

/-- A token is a comma. -/
def IsComma (token : Token) : Prop := token.kind = .punctuation ','

end Token

namespace Invocation

open Token (IsBracket Encloses IsComma)

/-! ### Runs -/

/-- The brackets of a list of tokens are nested and matched. -/
inductive Nested : List Token → Prop
  | nil : Nested []
  | plain {token : Token} {rest : List Token} (htoken : ¬ token.IsBracket) (hrest : Nested rest) :
      Nested (token :: rest)
  | enclosed {opener closer : Token} {inner rest : List Token} (hpair : Encloses opener closer)
      (hinner : Nested inner) (hrest : Nested rest) :
      Nested (opener :: (inner ++ closer :: rest))

/-- The brackets of a list of tokens are nested and matched, and no comma is outside of them. -/
inductive CommaFree : List Token → Prop
  | nil : CommaFree []
  | plain {token : Token} {rest : List Token} (htoken : ¬ token.IsBracket)
      (hcomma : ¬ token.IsComma) (hrest : CommaFree rest) : CommaFree (token :: rest)
  | enclosed {opener closer : Token} {inner rest : List Token} (hpair : Encloses opener closer)
      (hinner : Nested inner) (hrest : CommaFree rest) :
      CommaFree (opener :: (inner ++ closer :: rest))

/-- A run starts with a name and a colon. -/
def StartsWithLabel (run : List Token) : Prop :=
  ∃ name colon rest, run = name :: colon :: rest ∧ name.kind = .identifier ∧
    colon.kind = .punctuation ':'

/-- A run of tokens that spells an argument. -/
structure IsArgumentRun (run : List Token) : Prop where
  ne_nil : run ≠ []
  commaFree : CommaFree run
  not_only_label : ¬ (StartsWithLabel run ∧ run.length = 2)

/-- Runs, and the tokens that they take up with a comma between neighbours. -/
inductive Separated : List (List Token) → List Token → Prop
  | none : Separated [] []
  | one {run : List Token} : Separated [run] run
  | more {run next rest : List Token} {runs : List (List Token)} {comma : Token}
      (hcomma : comma.IsComma) (hrest : Separated (next :: runs) rest) :
      Separated (run :: next :: runs) (run ++ comma :: rest)

/-! ### Invocations -/

/-- The tokens of an invocation with a name and the runs of its arguments. -/
inductive IsInvocation : List Token → Token → List (List Token) → Prop
  | mk {hash name opener closer : Token} {body : List Token} {runs : List (List Token)}
      (hhash : hash.kind = .punctuation '#') (hname : name.kind = .identifier)
      (htouch : name.start = hash.stop) (hopener : opener.kind = .punctuation '(')
      (hbody : Separated runs body) (hruns : ∀ run ∈ runs, IsArgumentRun run)
      (hcloser : closer.kind = .punctuation ')') :
      IsInvocation (hash :: name :: opener :: (body ++ [closer])) name runs

/-- The argument that a run spells in a source: the label is the name in front of a colon, and the
other tokens give the expression. -/
inductive Spells (source : Text) : List Token → Argument → Prop
  | labelled {name colon first : Token} {rest : List Token} (hname : name.kind = .identifier)
      (hcolon : colon.kind = .punctuation ':') :
      Spells source (name :: colon :: first :: rest)
        ⟨some ⟨name.text, name.span⟩, .ofRun source first rest⟩
  | unlabelled {first : Token} {rest : List Token} (hlabel : ¬ StartsWithLabel (first :: rest)) :
      Spells source (first :: rest) ⟨none, .ofRun source first rest⟩

/-! ### Joining nested lists -/

theorem Nested.append {first rest : List Token} (hfirst : Nested first) (hrest : Nested rest) :
    Nested (first ++ rest) := by
  induction hfirst with
  | nil => exact hrest
  | plain htoken _ ih => exact .plain htoken ih
  | enclosed hpair hinner _ _ ih =>
    rw [List.cons_append, List.append_assoc, List.cons_append]
    exact .enclosed hpair hinner ih

theorem CommaFree.append {first rest : List Token} (hfirst : CommaFree first)
    (hrest : CommaFree rest) : CommaFree (first ++ rest) := by
  induction hfirst with
  | nil => exact hrest
  | plain htoken hcomma _ ih => exact .plain htoken hcomma ih
  | enclosed hpair hinner _ ih =>
    rw [List.cons_append, List.append_assoc, List.cons_append]
    exact .enclosed hpair hinner ih

/-! ### Steps of the machine -/

theorem mem_bracketPairs_of_closerOf? {o c : Char} (h : closerOf? o = some c) :
    (o, c) ∈ Token.bracketPairs := by
  unfold closerOf? at h
  split at h <;> cases h <;> decide

/-- The brackets as the machine sees them. -/
theorem closerOf?_bracketPairs : ∀ pair ∈ Token.bracketPairs,
    closerOf? pair.1 = some pair.2 ∧ closerOf? pair.2 = none ∧ isCloser pair.2 = true := by
  decide

theorem exists_pair_of_isCloser {c : Char} (h : isCloser c = true) :
    ∃ pair ∈ Token.bracketPairs, pair.2 = c := by
  simp only [isCloser, Bool.or_eq_true, decide_eq_true_eq] at h
  rcases h with (rfl | rfl) | rfl <;> decide

theorem isBracket_iff {token : Token} {c : Char} (hkind : token.kind = .punctuation c) :
    token.IsBracket ↔ closerOf? c ≠ none ∨ isCloser c = true := by
  constructor
  · rintro ⟨pair, hpair, hc | hc⟩
    · obtain rfl : c = pair.1 := by simpa [hkind] using hc
      exact .inl (by simp [(closerOf?_bracketPairs pair hpair).1])
    · obtain rfl : c = pair.2 := by simpa [hkind] using hc
      exact .inr (closerOf?_bracketPairs pair hpair).2.2
  · rintro (hc | hc)
    · obtain ⟨closer, hcloser⟩ := Option.ne_none_iff_exists'.1 hc
      exact ⟨_, mem_bracketPairs_of_closerOf? hcloser, .inl hkind⟩
    · obtain ⟨pair, hpair, rfl⟩ := exists_pair_of_isCloser hc
      exact ⟨pair, hpair, .inr hkind⟩

theorem not_isBracket_of_kind {token : Token} (hkind : ∀ c, token.kind ≠ .punctuation c) :
    ¬ token.IsBracket := by
  rintro ⟨pair, _, hc | hc⟩
  · exact hkind _ hc
  · exact hkind _ hc

section steps

variable {openAt : Nat} {stack : List Char} {runs : List (List Token)} {run rest : List Token}
  {token : Token}

theorem splitRuns_opener {o c : Char} (hkind : token.kind = .punctuation o)
    (ho : closerOf? o = some c) :
    splitRuns openAt stack runs run (token :: rest) =
      splitRuns openAt (c :: stack) runs (run ++ [token]) rest := by
  simp only [splitRuns, hkind, ho]

theorem splitRuns_closer {c : Char} (hkind : token.kind = .punctuation c)
    (hnone : closerOf? c = none) (hc : isCloser c = true) :
    splitRuns openAt (c :: stack) runs run (token :: rest) =
      splitRuns openAt stack runs (run ++ [token]) rest := by
  simp only [splitRuns, hkind, hnone, hc, if_true, ne_eq, not_true_eq_false, if_false]

theorem splitRuns_plain (htoken : ¬ token.IsBracket) (hcomma : ¬ token.IsComma ∨ stack ≠ []) :
    splitRuns openAt stack runs run (token :: rest) =
      splitRuns openAt stack runs (run ++ [token]) rest := by
  rw [splitRuns]
  split
  · next c hkind =>
    obtain ⟨hnone, hc⟩ : closerOf? c = none ∧ isCloser c = false := by
      simpa [isBracket_iff hkind] using htoken
    have hplain : ¬ (c = ',' ∧ stack = []) := by
      rintro ⟨rfl, rfl⟩
      exact hcomma.elim (fun h => h hkind) (fun h => h rfl)
    simp only [hnone, hc, Bool.false_eq_true, if_false, if_neg hplain]
  · rfl

theorem splitRuns_comma (hcomma : token.IsComma) (hrun : run ≠ []) :
    splitRuns openAt [] runs run (token :: rest) = splitRuns openAt [] (runs ++ [run]) [] rest := by
  have hempty : run.isEmpty = false := by simpa using hrun
  rw [splitRuns, show token.kind = .punctuation ',' from hcomma]
  simp [closerOf?, isCloser, hempty]

theorem splitRuns_end (hkind : token.kind = .punctuation ')') (hrun : run ≠ []) :
    splitRuns openAt [] runs run (token :: rest) = .ok (runs ++ [run], rest) := by
  have hempty : run.isEmpty = false := by simpa using hrun
  simp [splitRuns, hkind, closerOf?, isCloser, hempty]

theorem splitRuns_end_nil (hkind : token.kind = .punctuation ')') :
    splitRuns openAt [] [] [] (token :: rest) = .ok ([], rest) := by
  simp [splitRuns, hkind, closerOf?, isCloser]

end steps

/-! ### What the grammar allows is split -/

/-- The machine passes over a nested list while a bracket is open. -/
theorem splitRuns_nested {inner : List Token} (hinner : Nested inner) (openAt : Nat) (c : Char)
    (stack : List Char) (runs : List (List Token)) (run rest : List Token) :
    splitRuns openAt (c :: stack) runs run (inner ++ rest) =
      splitRuns openAt (c :: stack) runs (run ++ inner) rest := by
  induction hinner generalizing c stack run rest with
  | nil => simp
  | plain htoken _ ih =>
    rw [List.cons_append, splitRuns_plain htoken (.inr (by simp)), ih]
    simp
  | @enclosed opener closer inner others hpair _ _ ihinner ihrest =>
    obtain ⟨pair, hpair, ho, hc⟩ := hpair
    obtain ⟨h₁, h₂, h₃⟩ := closerOf?_bracketPairs pair hpair
    calc splitRuns openAt (c :: stack) runs run (opener :: (inner ++ closer :: others) ++ rest)
        = splitRuns openAt (pair.2 :: c :: stack) runs (run ++ [opener])
            (inner ++ (closer :: (others ++ rest))) := by
          rw [List.cons_append, splitRuns_opener ho h₁, List.append_assoc, List.cons_append]
      _ = splitRuns openAt (c :: stack) runs (run ++ [opener] ++ inner ++ [closer])
            (others ++ rest) := by
          rw [ihinner, splitRuns_closer hc h₂ h₃]
      _ = splitRuns openAt (c :: stack) runs (run ++ opener :: (inner ++ closer :: others))
            rest := by
          rw [ihrest]
          simp

/-- The machine passes over a list without a comma outside of its brackets, wherever it stands. -/
theorem splitRuns_commaFree {inner : List Token} (hinner : CommaFree inner) (openAt : Nat)
    (stack : List Char) (runs : List (List Token)) (run rest : List Token) :
    splitRuns openAt stack runs run (inner ++ rest) =
      splitRuns openAt stack runs (run ++ inner) rest := by
  induction hinner generalizing run rest with
  | nil => simp
  | plain htoken hcomma _ ih =>
    rw [List.cons_append, splitRuns_plain htoken (.inl hcomma), ih]
    simp
  | @enclosed opener closer inner others hpair hnested _ ih =>
    obtain ⟨pair, hpair, ho, hc⟩ := hpair
    obtain ⟨h₁, h₂, h₃⟩ := closerOf?_bracketPairs pair hpair
    calc splitRuns openAt stack runs run (opener :: (inner ++ closer :: others) ++ rest)
        = splitRuns openAt (pair.2 :: stack) runs (run ++ [opener])
            (inner ++ (closer :: (others ++ rest))) := by
          rw [List.cons_append, splitRuns_opener ho h₁, List.append_assoc, List.cons_append]
      _ = splitRuns openAt stack runs (run ++ [opener] ++ inner ++ [closer]) (others ++ rest) := by
          rw [splitRuns_nested hnested, splitRuns_closer hc h₂ h₃]
      _ = splitRuns openAt stack runs (run ++ opener :: (inner ++ closer :: others)) rest := by
          rw [ih]
          simp

/-- Runs that can stand between commas. -/
def AllRuns (runs : List (List Token)) : Prop := ∀ run ∈ runs, run ≠ [] ∧ CommaFree run

theorem splitRuns_separated {newRuns : List (List Token)} {body : List Token}
    (hbody : Separated newRuns body) (hruns : AllRuns newRuns) (openAt : Nat)
    (runs : List (List Token)) (hsome : newRuns = [] → runs = []) {closer : Token}
    (hcloser : closer.kind = .punctuation ')') (trailing : List Token) :
    splitRuns openAt [] runs [] (body ++ closer :: trailing) = .ok (runs ++ newRuns, trailing) := by
  induction hbody generalizing runs with
  | none =>
    obtain rfl := hsome rfl
    exact splitRuns_end_nil hcloser
  | @one run =>
    obtain ⟨hne, hfree⟩ := hruns run (by simp)
    rw [splitRuns_commaFree hfree, List.nil_append, splitRuns_end hcloser hne]
  | @more run next rest newRuns comma hcomma _ ih =>
    obtain ⟨hne, hfree⟩ := hruns run (by simp)
    rw [List.append_assoc, List.cons_append, splitRuns_commaFree hfree, List.nil_append,
      splitRuns_comma hcomma hne, ih (fun r hr => hruns r (by simp [hr])) _ (by simp)]
    simp

/-! ### What is split is allowed by the grammar -/

/-- A run under way while the brackets on a stack are still to be closed: comma-free tokens, then
for each open bracket, the outermost first, the bracket and nested tokens. -/
inductive Pending : List Char → List Token → Prop
  | outside {run : List Token} (hrun : CommaFree run) : Pending [] run
  | inside {stack : List Char} {before inner : List Token} {opener : Token} {o c : Char}
      (hbefore : Pending stack before) (hopener : opener.kind = .punctuation o)
      (hpair : (o, c) ∈ Token.bracketPairs) (hinner : Nested inner) :
      Pending (c :: stack) (before ++ opener :: inner)

theorem pending_nil : Pending [] [] := .outside .nil

theorem Pending.commaFree {run : List Token} (h : Pending [] run) : CommaFree run := by
  cases h with
  | outside hrun => exact hrun

theorem Pending.push {stack : List Char} {run : List Token} {token : Token} {o c : Char}
    (h : Pending stack run) (hkind : token.kind = .punctuation o)
    (hpair : (o, c) ∈ Token.bracketPairs) : Pending (c :: stack) (run ++ [token]) :=
  .inside h hkind hpair .nil

theorem Pending.plain {stack : List Char} {run : List Token} {token : Token}
    (h : Pending stack run) (htoken : ¬ token.IsBracket) (hcomma : ¬ token.IsComma ∨ stack ≠ []) :
    Pending stack (run ++ [token]) := by
  cases h with
  | outside hrun =>
    have hcomma := hcomma.resolve_right (by simp)
    exact .outside (hrun.append (.plain htoken hcomma .nil))
  | inside hbefore hopener hpair hinner =>
    rw [List.append_assoc, List.cons_append]
    exact .inside hbefore hopener hpair (hinner.append (.plain htoken .nil))

/-- Closing the innermost bracket makes its tokens part of what stands around it. -/
theorem Pending.pop {stack : List Char} {run : List Token} {token : Token} {c : Char}
    (h : Pending (c :: stack) run) (hkind : token.kind = .punctuation c) :
    Pending stack (run ++ [token]) := by
  cases h with
  | @inside _ before inner opener o _ hbefore hopener hpair hinner =>
    have hencloses : Encloses opener token := ⟨_, hpair, hopener, hkind⟩
    rw [List.append_assoc, List.cons_append]
    cases hbefore with
    | outside hrun => exact .outside (hrun.append (.enclosed hencloses hinner .nil))
    | inside hbefore' hopener' hpair' hinner' =>
      rw [List.append_assoc, List.cons_append]
      exact .inside hbefore' hopener' hpair' (hinner'.append (.enclosed hencloses hinner .nil))

/-- The tokens in front of some closing bracket complete the run under way and give new runs; only
when there are no runs at all may there be none. -/
def SplitsInto (runs : List (List Token)) (run tokens : List Token) (result : List (List Token))
    (trailing : List Token) : Prop :=
  ∃ body closer newRuns, tokens = body ++ closer :: trailing ∧
    closer.kind = .punctuation ')' ∧ result = runs ++ newRuns ∧
    Separated newRuns (run ++ body) ∧ AllRuns newRuns ∧ (newRuns = [] → runs = [])

/-- It does not matter whether a token counts as part of the run under way. -/
theorem SplitsInto.cons {runs result : List (List Token)} {run rest trailing : List Token}
    {token : Token} (h : SplitsInto runs (run ++ [token]) rest result trailing) :
    SplitsInto runs run (token :: rest) result trailing := by
  obtain ⟨body, closer, newRuns, rfl, hcloser, hresult, hbody, hruns⟩ := h
  rw [List.append_assoc] at hbody
  exact ⟨token :: body, closer, newRuns, rfl, hcloser, hresult, hbody, hruns⟩

/-- A comma completes the run under way. -/
theorem SplitsInto.comma {runs result : List (List Token)} {run rest trailing : List Token}
    {comma : Token} (hcomma : comma.IsComma) (hrun : run ≠ [] ∧ CommaFree run)
    (h : SplitsInto (runs ++ [run]) [] rest result trailing) :
    SplitsInto runs run (comma :: rest) result trailing := by
  obtain ⟨body, closer, newRuns, rfl, hcloser, rfl, hbody, hruns, hnil⟩ := h
  cases newRuns with
  | nil => simpa using hnil rfl
  | cons next newRuns =>
    refine ⟨comma :: body, closer, run :: next :: newRuns, rfl, hcloser, by simp,
      .more hcomma hbody, ?_, by simp⟩
    exact List.forall_mem_cons.2 ⟨hrun, hruns⟩

/-- What the machine splits is what the grammar allows. -/
theorem splitRuns_sound {openAt : Nat} {stack : List Char} {runs result : List (List Token)}
    {run tokens trailing : List Token} (hrun : Pending stack run)
    (h : splitRuns openAt stack runs run tokens = .ok (result, trailing)) :
    SplitsInto runs run tokens result trailing := by
  fun_induction splitRuns openAt stack runs run tokens with
  | case1 | case3 | case5 | case7 | case9 => cases h
  | case2 stack runs run token rest o hkind c hc ih =>
    exact (ih (hrun.push hkind (mem_bracketPairs_of_closerOf? hc)) h).cons
  | case4 runs run token rest c hkind hnone hc hparen hne =>
    cases h
    obtain rfl : c = ')' := by simpa using hparen
    have hne : run ≠ [] := by simpa using hne
    exact ⟨[], token, [run], rfl, hkind, rfl, by simpa using Separated.one,
      by simpa [AllRuns] using ⟨hne, hrun.commaFree⟩, by simp⟩
  | case6 runs run token rest c hkind hnone hc hparen hrunNil hrunsNil =>
    cases h
    obtain rfl : c = ')' := by simpa using hparen
    obtain rfl : run = [] := by simpa using hrunNil
    obtain rfl : runs = [] := by simpa using hrunsNil
    exact ⟨[], token, [], rfl, hkind, rfl, .none, by simp [AllRuns], fun _ => rfl⟩
  | case8 runs run token rest c hkind hnone hc closer stack hsame ih =>
    obtain rfl : closer = c := by simpa using hsame
    exact (ih (hrun.pop hkind) h).cons
  | case10 stack runs run token rest c hkind hnone hc hcomma hne ih =>
    obtain ⟨rfl, rfl⟩ := hcomma
    have hne : run ≠ [] := by simpa using hne
    exact .comma hkind ⟨hne, hrun.commaFree⟩ (ih pending_nil h)
  | case11 stack runs run token rest c hkind hnone hc hplain ih =>
    have htoken : ¬ token.IsBracket := by simp [isBracket_iff hkind, hnone, hc]
    refine (ih (hrun.plain htoken ?_) h).cons
    by_cases hstack : stack = []
    · left
      intro hcomma
      exact hplain ⟨TokenKind.punctuation.inj (hkind.symm.trans hcomma), hstack⟩
    · exact .inr hstack
  | case12 stack runs run token rest hkind ih =>
    refine (ih (hrun.plain (not_isBracket_of_kind hkind) (.inl (hkind ','))) h).cons

/-- The machine splits exactly what the grammar allows, and in the same way. -/
theorem splitRuns_iff {openAt : Nat} {tokens trailing : List Token} {runs : List (List Token)} :
    splitRuns openAt [] [] [] tokens = .ok (runs, trailing) ↔
      ∃ body closer, tokens = body ++ closer :: trailing ∧ closer.kind = .punctuation ')' ∧
        Separated runs body ∧ AllRuns runs := by
  constructor
  · intro h
    obtain ⟨body, closer, newRuns, htokens, hcloser, rfl, hbody, hruns, -⟩ :=
      splitRuns_sound pending_nil h
    exact ⟨body, closer, htokens, hcloser, hbody, hruns⟩
  · rintro ⟨body, closer, rfl, hcloser, hbody, hruns⟩
    exact splitRuns_separated hbody hruns openAt [] (fun _ => rfl) hcloser trailing

/-- Faults of the list of arguments are reported at its opening bracket or at one of its tokens. -/
theorem splitRuns_error {openAt : Nat} {stack : List Char} {runs : List (List Token)}
    {run tokens : List Token} {e : ParseError}
    (h : splitRuns openAt stack runs run tokens = .error e) :
    e.position = openAt ∨ ∃ token ∈ tokens, e.position = token.start := by
  have hcons : ∀ {token : Token} {rest : List Token},
      (e.position = openAt ∨ ∃ other ∈ rest, e.position = other.start) →
      e.position = openAt ∨ ∃ other ∈ token :: rest, e.position = other.start :=
    fun h => h.imp_right fun ⟨other, hmem, heq⟩ => ⟨other, List.mem_cons_of_mem _ hmem, heq⟩
  fun_induction splitRuns openAt stack runs run tokens with
  | case1 => cases h; exact .inl rfl
  | case4 | case6 => cases h
  | case3 | case5 | case7 | case9 => cases h; exact .inr ⟨_, List.mem_cons_self .., rfl⟩
  | case2 _ _ _ _ _ _ _ _ _ ih => exact hcons (ih h)
  | case8 _ _ _ _ _ _ _ _ _ _ _ ih => exact hcons (ih h)
  | case10 _ _ _ _ _ _ _ _ _ _ _ ih => exact hcons (ih h)
  | case11 _ _ _ _ _ _ _ _ _ _ ih => exact hcons (ih h)
  | case12 _ _ _ _ _ _ ih => exact hcons (ih h)

end Invocation

end ColorLiteral
