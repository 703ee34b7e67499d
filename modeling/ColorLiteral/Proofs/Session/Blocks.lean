import ColorLiteral.Proofs.Session.Calls

/-!
# Blocks that move the directory of the settings

In a properly nested run every block that is entered is left again, the innermost one first. Leaving
a block gives the variable for the directory of the settings the value that it had in front of the
block, whatever happened inside, and touches no other variable. The memory is empty on both edges of
a block (`nested_restores`).

The values to give back are kept on a stack. Entering puts one on it and leaving takes one off, so
that a nested run leaves the stack as it was (`IsNested.outerValues_after`). The value on top behind
the inside of a block is then the one that was put there on entering it.
-/

namespace ColorLiteral

/-- An action enters a block. No directory has the character with the number zero in its name, so
that there is no block for such a name. -/
def Action.Enters : Action → Prop
  | .enterBlock directory => directory.hasNul = false
  | _ => False

/-- Runs in which every block that is entered is left again, the innermost one first. -/
inductive IsNested : List Action → Prop
  | nil : IsNested []
  | step {a : Action} {run : List Action} (henters : ¬ a.Enters) (hleaves : a ≠ .leaveBlock)
      (hrun : IsNested run) : IsNested (a :: run)
  | block {directory : Text} {inner run : List Action} (hnul : directory.hasNul = false)
      (hinner : IsNested inner) (hrun : IsNested run) :
      IsNested (.enterBlock directory :: (inner ++ .leaveBlock :: run))

/-- In front of the exit from a block, a nested run has entered it and gone through the inside. -/
theorem IsNested.exists_enter {run before rest : List Action} (hrun : IsNested run)
    (heq : run = before ++ .leaveBlock :: rest) :
    ∃ outside directory inner, before = outside ++ .enterBlock directory :: inner ∧
      directory.hasNul = false ∧ IsNested inner := by
  induction hrun generalizing before rest with
  | nil => simp at heq
  | @step a run henters hleaves hrun ih =>
    cases before with
    | nil => exact absurd (List.cons.inj heq).1 hleaves
    | cons b before =>
      obtain ⟨rfl, hrest⟩ := List.cons.inj heq
      obtain ⟨outside, directory, inner, rfl, hnul, hinner⟩ := ih hrest
      exact ⟨a :: outside, directory, inner, rfl, hnul, hinner⟩
  | @block directory inner run hnul hinner hrun ihinner ihrun =>
    cases before with
    | nil => simp at heq
    | cons b before =>
      obtain ⟨rfl, hrest⟩ := List.cons.inj heq
      -- The exit lies inside of the first block, or it is the exit from it, or it comes later.
      rcases List.append_eq_append_iff.1 hrest with ⟨mid, rfl, hmid⟩ | ⟨mid, rfl, hmid⟩
      · cases mid with
        | nil => exact ⟨[], directory, inner, by simp, hnul, hinner⟩
        | cons b mid =>
          obtain ⟨rfl, hlater⟩ := List.cons.inj hmid
          obtain ⟨outside, directory', inner', rfl, hnul', hinner'⟩ := ihrun hlater
          exact ⟨.enterBlock directory :: (inner ++ .leaveBlock :: outside), directory', inner',
            by simp, hnul', hinner'⟩
      · cases mid with
        | nil => exact ⟨[], directory, before, rfl, hnul, by simpa using hinner⟩
        | cons b mid =>
          obtain ⟨rfl, -⟩ := List.cons.inj hmid
          obtain ⟨outside, directory', inner', rfl, hnul', hinner'⟩ := ihinner rfl
          exact ⟨.enterBlock directory :: outside, directory', inner', rfl, hnul', hinner'⟩

namespace Session

variable {s : Session} {a : Action} {run : List Action}

theorem after_append (s : Session) (before rest : List Action) :
    s.after (before ++ rest) = (s.after before).after rest :=
  List.foldl_append

/-! ### The edges of a block -/

theorem snd_enterBlock {directory : Text} (hnul : directory.hasNul = false) :
    (s.perform (.enterBlock directory)).2 = s.enterBlock directory := by
  have hvalid : ¬ directory.hasNul = true := by simp [hnul]
  rw [perform, performBy, if_neg hvalid]

theorem environment_enterBlock (s : Session) (directory : Text) :
    (s.enterBlock directory).host.environment Environment.dataDirectory = some directory := by
  simp [enterBlock, moveData]

/-- Leaving a block with the values to give back as they were on entering it. -/
theorem leaveBlock_of_outerValues {directory : Text} {inside : Session}
    (houter : inside.outerValues = (s.enterBlock directory).outerValues) :
    inside.leaveBlock.host.environment = inside.host.environment.assign Environment.dataDirectory
        (s.host.environment Environment.dataDirectory) ∧
      inside.leaveBlock.cache = inside.cache.clear ∧
      inside.leaveBlock.outerValues = s.outerValues := by
  have hcons : inside.outerValues =
      s.host.environment Environment.dataDirectory :: s.outerValues := houter
  rw [leaveBlock, hcons]
  exact ⟨rfl, rfl, rfl⟩

/-! ### The values to give back -/

/-- Only entering and leaving touch the values that are given back. -/
theorem outerValues_perform (henters : ¬ a.Enters) (hleaves : a ≠ .leaveBlock) :
    (s.perform a).2.outerValues = s.outerValues := by
  have hchange (path : Path) (f : FileTree → FileTree) :
      (s.change path f).2.outerValues = s.outerValues := by
    unfold change
    split <;> rfl
  cases ha : a.leavesSurroundings with
  | true =>
    obtain ⟨ε, α, task, explain, wrap, htask, hperform⟩ := Action.exists_task ha
    rw [perform, hperform, answer_snd]
    exact htask.outerValues_eq s
  | false =>
    cases a with
    | write | makeDirectory | delete => exact hchange _ _
    | assign name value =>
      rw [perform, performBy]
      split <;> rfl
    | provideRelaxedReader | clearCache => rfl
    | enterBlock directory =>
      have hnul : directory.hasNul = true := by simpa [Action.Enters] using henters
      rw [perform, performBy, if_pos hnul]
    | leaveBlock => exact absurd rfl hleaves
    | _ => cases ha

/-- The session right behind a block: the variable for the directory of the settings is as it was in
front of the block, and the other variables are as the inside left them. -/
structure IsBehind (outside inside left : Session) : Prop where
  dataDirectory : left.host.environment Environment.dataDirectory =
    outside.host.environment Environment.dataDirectory
  other : ∀ name, name ≠ Environment.dataDirectory →
    left.host.environment name = inside.host.environment name
  forgets : left.cache.entries = []

/-- All along a run, the edges of the blocks are in order. -/
structure RestoresAlong (s : Session) (run : List Action) : Prop where
  enter : ∀ before directory rest, run = before ++ .enterBlock directory :: rest →
    directory.hasNul = false →
      (s.after (before ++ [.enterBlock directory])).host.environment Environment.dataDirectory =
        some directory ∧
      (s.after (before ++ [.enterBlock directory])).cache.entries = []
  leave : ∀ before rest, run = before ++ .leaveBlock :: rest →
    ∃ outside directory inner, before = outside ++ .enterBlock directory :: inner ∧
      directory.hasNul = false ∧ IsNested inner ∧
      IsBehind (s.after outside) (s.after before) (s.after (before ++ [.leaveBlock]))

end Session

open Session

variable {inner run : List Action}

/-! ### Nested runs -/

theorem IsNested.outerValues_after (hrun : IsNested run) (s : Session) :
    (s.after run).outerValues = s.outerValues := by
  induction hrun generalizing s with
  | nil => rfl
  | @step a run henters hleaves hrun ih =>
    have hstep : s.after (a :: run) = (s.perform a).2.after run := rfl
    rw [hstep, ih, outerValues_perform henters hleaves]
  | @block directory inner run hnul hinner hrun ihinner ihrun =>
    have hstep : s.after (.enterBlock directory :: (inner ++ .leaveBlock :: run)) =
        ((s.enterBlock directory).after inner).leaveBlock.after run := by
      rw [← snd_enterBlock hnul]
      exact after_append _ inner _
    obtain ⟨-, -, houter⟩ := leaveBlock_of_outerValues (ihinner (s.enterBlock directory))
    rw [hstep, ihrun, houter]

/-- A block that is gone through as a whole. -/
theorem IsNested.isBehind (hinner : IsNested inner) (s : Session) (directory : Text) :
    IsBehind s ((s.enterBlock directory).after inner)
      ((s.enterBlock directory).after inner).leaveBlock := by
  have houter := hinner.outerValues_after (s.enterBlock directory)
  obtain ⟨henvironment, hcache, -⟩ := leaveBlock_of_outerValues houter
  refine ⟨?_, fun name hname => ?_, ?_⟩
  · rw [henvironment, Environment.assign_same]
  · rw [henvironment, Environment.assign_other _ _ hname]
  · rw [hcache]
    rfl

/-- In a nested run, entering a block points the variable for the directory of the settings at the
directory of the block, and leaving the block gives it back the value that it had in front of the
block, be it a text, the empty text or none. The other variables stay as the inside of the block
left them. On both edges the memory is empty. -/
theorem nested_restores (hrun : IsNested run) (s : Session) : s.RestoresAlong run where
  enter before directory rest _ hnul := by
    have hentered : s.after (before ++ [.enterBlock directory]) =
        (s.after before).enterBlock directory := by
      rw [after_append, ← snd_enterBlock hnul]
      rfl
    rw [hentered]
    exact ⟨environment_enterBlock _ directory, rfl⟩
  leave before rest heq := by
    obtain ⟨outside, directory, inner, rfl, hnul, hinner⟩ := hrun.exists_enter heq
    have hinside : s.after (outside ++ .enterBlock directory :: inner) =
        ((s.after outside).enterBlock directory).after inner := by
      rw [after_append, ← snd_enterBlock hnul]
      rfl
    have hleft : s.after ((outside ++ .enterBlock directory :: inner) ++ [.leaveBlock]) =
        (((s.after outside).enterBlock directory).after inner).leaveBlock := by
      rw [after_append, hinside]
      rfl
    refine ⟨outside, directory, inner, rfl, hnul, hinner, ?_⟩
    rw [hleft, hinside]
    exact hinner.isBehind (s.after outside) directory

/-- Two blocks, one in the other, in which the variable is overwritten and unset. -/
theorem nested_restores_overwritten :
    ∃ run : List Action,
      run = [.assign Environment.dataDirectory (some []), .enterBlock "/a",
        .assign Environment.dataDirectory (some "/b".toList), .enterBlock "/c",
        .assign Environment.dataDirectory none, .leaveBlock, .clearCache, .leaveBlock] ∧
      IsNested run ∧
      (start (Config.Host.bare .empty)).RestoresAlong run := by
  have hclear : IsNested [.clearCache] := .step id Action.noConfusion .nil
  have hunset : IsNested [.assign Environment.dataDirectory none] :=
    .step id Action.noConfusion .nil
  have hinner : IsNested [.assign Environment.dataDirectory (some "/b".toList), .enterBlock "/c",
      .assign Environment.dataDirectory none, .leaveBlock, .clearCache] :=
    .step id Action.noConfusion (.block (by decide) hunset hclear)
  have hblock : IsNested (.enterBlock "/a" :: (_ ++ .leaveBlock :: [])) :=
    .block (by decide) hinner .nil
  have hrun := IsNested.step (a := .assign Environment.dataDirectory (some [])) id
    Action.noConfusion hblock
  exact ⟨_, rfl, hrun, nested_restores hrun _⟩

end ColorLiteral
