import ColorLiteral.Proofs.Invocation.Parsing
import ColorLiteral.Proofs.Text.Line
import ColorLiteral.Proofs.Token.Coverage

/-!
# The wording of errors

Of a text that is no invocation, an error quotes a closing bracket or a label at most, and neither
has blanks (`blankFree_quotedPart_of_parse`). So the message is on one line, whatever the text
(`isLine_message_of_parse`).
-/

namespace ColorLiteral

open Text (BlankFree IsLine blankFree_nil)

/-- What the description of a fault takes from the text. -/
def ParseFault.quotedPart : ParseFault → Text
  | unexpectedCloser c | mismatchedCloser c => [c]
  | nothingAfterLabel label => label
  | _ => []

theorem ParseFault.isLine_description {fault : ParseFault} (h : IsLine fault.quotedPart) :
    IsLine fault.description := by
  cases fault with
  | unexpectedCloser | mismatchedCloser | nothingAfterLabel =>
    exact (IsLine.append (by decide) h).append (by decide)
  | _ => decide

/-- A message has no line break if what it quotes has none. -/
theorem ParseError.isLine_message {e : ParseError} (h : IsLine e.fault.quotedPart) :
    IsLine e.message :=
  (((ParseFault.isLine_description h).append (by decide)).append (Text.isLine_ofNat _)).append
    (by decide)

namespace Invocation

theorem blankFree_singleton_of_isCloser {c : Char} (hc : isCloser c = true) : BlankFree [c] := by
  have hcloser : c = ')' ∨ c = ']' ∨ c = '}' := by simpa [isCloser, or_assoc] using hc
  refine List.forall_mem_singleton.2 ?_
  rcases hcloser with rfl | rfl | rfl <;> decide

theorem blankFree_quotedPart_of_splitRuns {openAt : Nat} {stack : List Char}
    {runs : List (List Token)} {run tokens : List Token} {e : ParseError}
    (h : splitRuns openAt stack runs run tokens = .error e) : BlankFree e.fault.quotedPart := by
  fun_induction splitRuns openAt stack runs run tokens with
  | case4 | case6 => cases h
  | case1 => cases h; exact blankFree_nil
  | case5 | case9 => cases h; exact blankFree_nil
  | case3 | case7 => cases h; exact blankFree_singleton_of_isCloser ‹_›
  | case2 _ _ _ _ _ _ _ _ _ ih => exact ih h
  | case8 _ _ _ _ _ _ _ _ _ _ _ ih => exact ih h
  | case10 _ _ _ _ _ _ _ _ _ _ _ ih => exact ih h
  | case11 _ _ _ _ _ _ _ _ _ _ ih => exact ih h
  | case12 _ _ _ _ _ _ ih => exact ih h

/-- The label that is quoted is a name. -/
theorem exists_name_of_argumentOfRun {source : Text} {run : List Token} {e : ParseError}
    (h : argumentOfRun source run = .error e) :
    ∃ token ∈ run, token.kind = .identifier ∧ e.fault.quotedPart = token.text := by
  fun_cases argumentOfRun source run with
  | case1 | case2 => cases h
  | case3 first second hlabel =>
    simp only [argumentOfRun, hlabel, and_self, if_true, Except.error.injEq] at h
    subst h
    exact ⟨first, List.mem_cons_self .., hlabel.1, rfl⟩
  | case4 first second hlabel third rest => simp [argumentOfRun, hlabel] at h
  | case5 first second rest hlabel => simp [argumentOfRun, hlabel] at h

theorem blankFree_quotedPart_of_ofTokens {source : Text} {tokens : List Token} {e : ParseError}
    (hnames : ∀ token ∈ tokens, token.kind = .identifier → BlankFree token.text)
    (h : ofTokens source tokens = .error e) : BlankFree e.fault.quotedPart := by
  unfold ofTokens at h
  split at h
  · next hash name opener rest =>
    split at h
    · cases h; exact blankFree_nil
    split at h
    · cases h; exact blankFree_nil
    split at h
    · cases h; exact blankFree_nil
    rcases Outcome.bind_eq_error_iff.1 h with hsplit | ⟨⟨runs, trailing⟩, hsplit, hrest⟩
    · exact blankFree_quotedPart_of_splitRuns hsplit
    · clear h
      obtain ⟨body, closer, rfl, -, hbody, -⟩ := splitRuns_iff.1 hsplit
      cases trailing with
      | cons token trailing => cases hrest; exact blankFree_nil
      | nil =>
        rcases Outcome.bind_eq_error_iff.1 hrest with hargs | ⟨args, -, hvalue⟩
        · obtain ⟨run, hrun, hargument⟩ := Outcome.exists_mem_of_mapM_eq_error hargs
          obtain ⟨token, htoken, hkind, hquoted⟩ := exists_name_of_argumentOfRun hargument
          have hmem := hbody.mem_of_mem hrun htoken
          rw [hquoted]
          exact hnames token (by simp [hmem]) hkind
        · cases hvalue
  · cases h; exact blankFree_nil
  · cases h; exact blankFree_nil

/-- An error quotes nothing that has blanks. -/
theorem blankFree_quotedPart_of_parse {source : Text} {e : ParseError}
    (h : parse source = .error e) : BlankFree e.fault.quotedPart := by
  rcases Outcome.bind_eq_error_iff.1 h with hread | ⟨tokens, htokens, hof⟩
  · obtain ⟨_, _, _, _, hdefect⟩ := Token.readAllFrom_eq_error_iff.1 hread
    obtain rfl | rfl | ⟨_, _, _, _, rfl⟩ := hdefect.place <;> exact blankFree_nil
  · refine blankFree_quotedPart_of_ofTokens (fun token hmem hkind => ?_) hof
    refine (Token.losesNothing_of_readAll htokens).blankFree_text token hmem fun segments => ?_
    rw [hkind]
    nofun

/-- The message about a text that is no invocation is on one line. -/
theorem isLine_message_of_parse {source : Text} {e : ParseError} (h : parse source = .error e) :
    IsLine e.message :=
  ParseError.isLine_message (blankFree_quotedPart_of_parse h).isLine

end Invocation

end ColorLiteral
