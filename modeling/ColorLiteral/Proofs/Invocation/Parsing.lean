import ColorLiteral.Proofs.Invocation.Grammar
import ColorLiteral.Proofs.Outcome
import ColorLiteral.Proofs.Token.Layout

/-!
# What parsing accepts

Parsing accepts a text exactly when its tokens are an invocation of the grammar, and gives the
arguments that the runs of the grammar spell (`parse_iff_isInvocation`). Every other text is
reported at one of its offsets.

Tokens and runs are joined in `ofTokens_iff`; the rest is that the runs of an invocation always
spell arguments, and that every error carries the place of a token or of a literal.
-/

namespace ColorLiteral.Invocation

open Token (IsComma)

/-! ### Arguments -/

theorem Spells.not_only_label {source : Text} {run : List Token} {a : Argument}
    (h : Spells source run a) : ¬ (StartsWithLabel run ∧ run.length = 2) := by
  rintro ⟨hlabel, hlength⟩
  cases h with
  | labelled => simp at hlength
  | unlabelled hno => exact hno hlabel

/-- A run gives an argument exactly when it spells one. -/
theorem argumentOfRun_iff {source : Text} {run : List Token} {a : Argument} (hrun : run ≠ []) :
    argumentOfRun source run = .ok a ↔ Spells source run a := by
  constructor
  · intro h
    fun_cases argumentOfRun source run with
    | case1 => exact absurd rfl hrun
    | case2 first =>
      cases h
      exact .unlabelled (by simp [StartsWithLabel])
    | case3 first second hlabel => simp [argumentOfRun, hlabel] at h
    | case4 first second hlabel third rest =>
      simp only [argumentOfRun, hlabel, and_self, if_true, Except.ok.injEq] at h
      subst h
      exact .labelled hlabel.1 hlabel.2
    | case5 first second rest hlabel =>
      simp only [argumentOfRun, if_neg hlabel, Except.ok.injEq] at h
      subst h
      refine .unlabelled ?_
      rintro ⟨name, colon, others, heq, hname, hcolon⟩
      cases heq
      exact hlabel ⟨hname, hcolon⟩
  · intro h
    cases h with
    | labelled hname hcolon => simp [argumentOfRun, hname, hcolon]
    | @unlabelled first rest hlabel =>
      cases rest with
      | nil => rfl
      | cons second rest =>
        have hno : ¬ (first.kind = .identifier ∧ second.kind = .punctuation ':') :=
          fun h => hlabel ⟨first, second, rest, rfl, h.1, h.2⟩
        simp only [argumentOfRun, if_neg hno]

theorem exists_spells (source : Text) {run : List Token} (hrun : IsArgumentRun run) :
    ∃ a, Spells source run a := by
  by_cases hlabel : StartsWithLabel run
  · obtain ⟨name, colon, rest, rfl, hname, hcolon⟩ := hlabel
    cases rest with
    | nil => exact absurd ⟨⟨name, colon, [], rfl, hname, hcolon⟩, rfl⟩ hrun.not_only_label
    | cons first rest => exact ⟨_, .labelled hname hcolon⟩
  · obtain ⟨first, rest, rfl⟩ := List.exists_cons_of_ne_nil hrun.ne_nil
    exact ⟨_, .unlabelled hlabel⟩

/-- A label without an expression is reported behind its colon. -/
theorem argumentOfRun_error {source : Text} {run : List Token} {e : ParseError}
    (h : argumentOfRun source run = .error e) : ∃ token ∈ run, e.position = token.stop := by
  fun_cases argumentOfRun source run with
  | case1 | case2 => cases h
  | case3 first second hlabel =>
    simp only [argumentOfRun, hlabel, and_self, if_true, Except.error.injEq] at h
    subst h
    exact ⟨second, by simp, rfl⟩
  | case4 first second hlabel third rest => simp [argumentOfRun, hlabel] at h
  | case5 first second rest hlabel => simp [argumentOfRun, hlabel] at h

/-! ### Invocations -/

/-- An invocation is built from the name and the runs of the grammar: it has one argument for each
run, the one that the run spells. -/
structure IsBuiltFrom (source : Text) (nameToken : Token) (runs : List (List Token))
    (i : Invocation) : Prop where
  name_eq : i.name = nameToken.text
  nameSpan_eq : i.nameSpan = nameToken.span
  spells : List.Forall₂ (Spells source) runs i.arguments

theorem mapM_argumentOfRun_iff {source : Text} {runs : List (List Token)} {args : List Argument}
    (hruns : ∀ run ∈ runs, run ≠ []) :
    runs.mapM (argumentOfRun source) = .ok args ↔ List.Forall₂ (Spells source) runs args := by
  rw [Outcome.mapM_eq_ok_iff]
  induction runs generalizing args with
  | nil => simp
  | cons run runs ih =>
    simp only [List.forall₂_cons_left_iff, argumentOfRun_iff (hruns run (by simp)),
      ih (fun r hr => hruns r (by simp [hr]))]

/-- The runs of an invocation are those that the machine splits and that spell arguments. -/
theorem forall_isArgumentRun {source : Text} {runs : List (List Token)} {args : List Argument}
    (hruns : AllRuns runs) (hargs : List.Forall₂ (Spells source) runs args) :
    ∀ run ∈ runs, IsArgumentRun run := by
  induction hargs with
  | nil => simp
  | cons hspells _ ih =>
    obtain ⟨⟨hne, hfree⟩, hruns⟩ := List.forall_mem_cons.1 hruns
    exact List.forall_mem_cons.2 ⟨⟨hne, hfree, hspells.not_only_label⟩, ih hruns⟩

/-- Tokens give an invocation exactly when they are one. -/
theorem ofTokens_iff {source : Text} {tokens : List Token} {i : Invocation} :
    ofTokens source tokens = .ok i ↔
      ∃ name runs, IsInvocation tokens name runs ∧ IsBuiltFrom source name runs i := by
  constructor
  · intro h
    unfold ofTokens at h
    split at h
    · next hash name opener rest =>
      split at h
      · cases h
      next hshape =>
      split at h
      · cases h
      next htouch =>
      split at h
      · cases h
      next hopener =>
      simp only [not_or, ne_eq, not_not] at hshape htouch hopener
      obtain ⟨⟨runs, trailing⟩, hsplit, h⟩ := Outcome.bind_eq_ok_iff.1 h
      cases trailing with
      | cons token trailing => cases h
      | nil =>
        obtain ⟨args, hargs, h⟩ := Outcome.bind_eq_ok_iff.1 h
        cases h
        obtain ⟨body, closer, rfl, hcloser, hbody, hruns⟩ := splitRuns_iff.1 hsplit
        rw [mapM_argumentOfRun_iff fun run hrun => (hruns run hrun).1] at hargs
        exact ⟨name, runs, .mk hshape.1 hshape.2 htouch hopener hbody
          (forall_isArgumentRun hruns hargs) hcloser, rfl, rfl, hargs⟩
    · cases h
    · cases h
  · rintro ⟨name, runs, hform, hbuilt⟩
    cases hform with
    | @mk hash _ opener closer body _ hhash hname htouch hopener hbody hruns hcloser =>
      have hall : AllRuns runs := fun run hrun =>
        ⟨(hruns run hrun).ne_nil, (hruns run hrun).commaFree⟩
      have hsplit : splitRuns opener.start [] [] [] (body ++ [closer]) = .ok (runs, []) :=
        splitRuns_iff.2 ⟨body, closer, rfl, hcloser, hbody, hall⟩
      have hargs := (mapM_argumentOfRun_iff fun run hrun => (hall run hrun).1).2 hbuilt.spells
      simp [ofTokens, hhash, hname, htouch, hopener, hsplit, hargs, bind, Except.bind,
        ← hbuilt.name_eq, ← hbuilt.nameSpan_eq]

/-- The runs of an invocation spell its arguments. -/
theorem exists_isBuiltFrom (source : Text) {tokens : List Token} {name : Token}
    {runs : List (List Token)} (h : IsInvocation tokens name runs) :
    ∃ i, IsBuiltFrom source name runs i := by
  cases h with
  | mk _ _ _ _ _ hruns _ =>
    have hargs : ∃ args, List.Forall₂ (Spells source) runs args := by
      clear * - hruns
      induction runs with
      | nil => exact ⟨[], .nil⟩
      | cons run runs ih =>
        obtain ⟨hrun, hruns⟩ := List.forall_mem_cons.1 hruns
        obtain ⟨a, ha⟩ := exists_spells source hrun
        obtain ⟨args, hargs⟩ := ih hruns
        exact ⟨a :: args, .cons ha hargs⟩
    obtain ⟨args, hargs⟩ := hargs
    exact ⟨⟨name.text, name.span, args⟩, rfl, rfl, hargs⟩

/-! ### Positions -/

theorem Separated.mem_of_mem {runs : List (List Token)} {body run : List Token} {token : Token}
    (h : Separated runs body) (hrun : run ∈ runs) (htoken : token ∈ run) : token ∈ body := by
  induction h with
  | none => cases hrun
  | one =>
    obtain rfl := List.mem_singleton.1 hrun
    exact htoken
  | more _ _ ih =>
    rcases List.mem_cons.1 hrun with rfl | hrun
    · exact List.mem_append_left _ htoken
    · exact List.mem_append_right _ (List.mem_cons_of_mem _ (ih hrun))

/-- Tokens that are no invocation are reported at the start or the end of one of them. -/
theorem ofTokens_error {source : Text} {tokens : List Token} {e : ParseError}
    (h : ofTokens source tokens = .error e) :
    e.position = 0 ∨ ∃ token ∈ tokens, e.position = token.start ∨ e.position = token.stop := by
  unfold ofTokens at h
  split at h
  · next hash name opener rest =>
    split at h
    · cases h; exact .inr ⟨hash, by simp, .inl rfl⟩
    split at h
    · cases h; exact .inr ⟨name, by simp, .inl rfl⟩
    split at h
    · cases h; exact .inr ⟨opener, by simp, .inl rfl⟩
    rcases Outcome.bind_eq_error_iff.1 h with hsplit | ⟨⟨runs, trailing⟩, hsplit, hrest⟩
    · rcases splitRuns_error hsplit with hplace | ⟨token, hmem, hplace⟩
      · exact .inr ⟨opener, by simp, .inl hplace⟩
      · exact .inr ⟨token, by simp [hmem], .inl hplace⟩
    · clear h
      obtain ⟨body, closer, rfl, -, hbody, -⟩ := splitRuns_iff.1 hsplit
      cases trailing with
      | cons token trailing => cases hrest; exact .inr ⟨token, by simp, .inl rfl⟩
      | nil =>
        rcases Outcome.bind_eq_error_iff.1 hrest with hargs | ⟨args, -, hvalue⟩
        · obtain ⟨run, hrun, hargument⟩ := Outcome.exists_mem_of_mapM_eq_error hargs
          obtain ⟨token, htoken, hplace⟩ := argumentOfRun_error hargument
          have := hbody.mem_of_mem hrun htoken
          exact .inr ⟨token, by simp [this], .inr hplace⟩
        · cases hvalue
  · next first rest _ => cases h; exact .inr ⟨first, by simp, .inl rfl⟩
  · cases h; exact .inl rfl

theorem parse_eq_ok_iff {source : Text} {i : Invocation} :
    parse source = .ok i ↔
      ∃ tokens, Token.readAll source = .ok tokens ∧ ofTokens source tokens = .ok i :=
  Outcome.bind_eq_ok_iff

theorem parse_error_position_le {source : Text} {e : ParseError} (h : parse source = .error e) :
    e.position ≤ source.length := by
  rcases Outcome.bind_eq_error_iff.1 h with h | ⟨tokens, htokens, h⟩
  · exact Nat.le_of_lt (Token.readAll_error h)
  · rcases ofTokens_error h with hplace | ⟨token, hmem, hplace⟩
    · omega
    · have hlayout := Token.readAll_layout htokens
      have hstop := hlayout.stop_le_of_mem hmem
      have hlt := (hlayout.isWellFormed_of_mem hmem).start_lt_stop
      omega

/-- A text is parsed exactly when its tokens are an invocation of the grammar. The invocation has
one argument for each run, the one that the run spells. Any other text gives an error at one of its
offsets or at its end. -/
theorem parse_iff_isInvocation (source : Text) :
    ((∃ i, parse source = .ok i) ↔
      ∃ tokens name runs, Token.readAll source = .ok tokens ∧ IsInvocation tokens name runs) ∧
    (∀ i tokens name runs, parse source = .ok i → Token.readAll source = .ok tokens →
      IsInvocation tokens name runs →
        IsBuiltFrom source name runs i ∧ i.arguments.length = runs.length) ∧
    ((¬ ∃ tokens name runs, Token.readAll source = .ok tokens ∧ IsInvocation tokens name runs) →
      ∃ e, parse source = .error e ∧ e.position ≤ source.length) := by
  have haccept : (∃ i, parse source = .ok i) ↔
      ∃ tokens name runs, Token.readAll source = .ok tokens ∧ IsInvocation tokens name runs := by
    constructor
    · rintro ⟨i, hi⟩
      obtain ⟨tokens, htokens, hof⟩ := parse_eq_ok_iff.1 hi
      obtain ⟨name, runs, hform, -⟩ := ofTokens_iff.1 hof
      exact ⟨tokens, name, runs, htokens, hform⟩
    · rintro ⟨tokens, name, runs, htokens, hform⟩
      obtain ⟨i, hbuilt⟩ := exists_isBuiltFrom source hform
      exact ⟨i, parse_eq_ok_iff.2 ⟨tokens, htokens, ofTokens_iff.2 ⟨name, runs, hform, hbuilt⟩⟩⟩
  refine ⟨haccept, ?_, ?_⟩
  · intro i tokens name runs hi htokens hform
    obtain ⟨j, hbuilt⟩ := exists_isBuiltFrom source hform
    have hj : parse source = .ok j :=
      parse_eq_ok_iff.2 ⟨tokens, htokens, ofTokens_iff.2 ⟨name, runs, hform, hbuilt⟩⟩
    obtain rfl : i = j := Except.ok.inj (hi.symm.trans hj)
    exact ⟨hbuilt, hbuilt.spells.length_eq.symm⟩
  · intro hno
    cases hparse : parse source with
    | ok i => exact absurd (haccept.1 ⟨i, hparse⟩) hno
    | error e => exact ⟨e, rfl, parse_error_position_le hparse⟩

end ColorLiteral.Invocation
