import ColorLiteral.Proofs.Session.Timely

/-!
# The calls of the loader, in order

An action calls the loader some number of times, and the memory passes from call to call: each finds
what the one before it has left (`Passes`). Which calls these are shows in what the action does with
other loaders. A loader that leaves a mark at one of the calls leaves a marked session behind, and
one that differs from the usual loader elsewhere only makes no difference (`IsCallsOf`). Such a list
exists for all work that uses a loader (`UsesLoader.exists_calls`), so that every action has a list
of exactly those calls that it makes (`Session.exists_isCallList`).
-/

namespace ColorLiteral

variable {ε ε' α β : Type}

/-! ### What happens to the memory -/

/-- What the memory sees: a call of the loader with a request in a session, or a clearing. -/
inductive Deed
  | call (c : Config.Request × Session)
  | clear

/-- The memory passes from deed to deed. -/
def Passes (c : Config.Cache) : List Deed → Config.Cache → Prop
  | [], c' => c' = c
  | .call (r, v) :: deeds, c' => v.cache = c ∧ Passes (Task.load r v).2.cache deeds c'
  | .clear :: deeds, c' => Passes c.clear deeds c'

theorem passes_append {c c'' : Config.Cache} {deeds deeds' : List Deed} :
    Passes c (deeds ++ deeds') c'' ↔ ∃ c', Passes c deeds c' ∧ Passes c' deeds' c'' := by
  induction deeds generalizing c with
  | nil => simp [Passes]
  | cons deed deeds ih =>
    cases deed with
    | call call =>
      rw [List.cons_append, Passes, ih]
      constructor
      · rintro ⟨hv, c', hpasses, hrest⟩
        exact ⟨c', ⟨hv, hpasses⟩, hrest⟩
      · rintro ⟨c', ⟨hv, hpasses⟩, hrest⟩
        exact ⟨hv, c', hpasses, hrest⟩
    | clear => exact ih

/-! ### Marks -/

/-- The session with a mark that no loader and no note takes away. -/
def Session.marked (s : Session) : Session := { s with outerValues := none :: s.outerValues }

open Classical in
/-- The usual loader, but one call leaves a mark. -/
noncomputable def markingLoader (call : Config.Request × Session) : Loader := fun r v =>
  if (r, v) = call then ((Task.load r v).1, (Task.load r v).2.marked) else Task.load r v

theorem markingLoader_self (r : Config.Request) (v : Session) :
    markingLoader (r, v) r v = ((Task.load r v).1, (Task.load r v).2.marked) := if_pos rfl

theorem markingLoader_of_ne {call : Config.Request × Session} {r : Config.Request} {v : Session}
    (h : (r, v) ≠ call) : markingLoader call r v = Task.load r v := if_neg h

theorem le_markingLoader (call : Config.Request × Session) (r : Config.Request) (v : Session) :
    v.outerValues.length ≤ (markingLoader call r v).2.outerValues.length := by
  by_cases h : (r, v) = call
  · subst h
    rw [markingLoader_self, Session.marked, List.length_cons, Session.outerValues_load]
    exact Nat.le_succ _
  · exact Nat.le_of_eq (by rw [markingLoader_of_ne h, Session.outerValues_load])

namespace UsesLoader

variable {task : Loader → Task ε α}

theorem le_marks (htask : UsesLoader task) (call : Config.Request × Session) (s : Session) :
    s.outerValues.length ≤ (task (markingLoader call) s).2.outerValues.length := by
  have hload (r : Config.Request) : Agree (fun w => s.outerValues.length ≤ w.outerValues.length)
      (markingLoader call r) (markingLoader call r) :=
    fun w hw => ⟨rfl, Nat.le_trans hw (le_markingLoader call r w)⟩
  exact (htask.agree hload (fun _ _ hw => hw) s (Nat.le_refl _)).2

theorem outerValues_eq (htask : UsesLoader task) (s : Session) :
    (task Task.load s).2.outerValues = s.outerValues := by
  have hload (r : Config.Request) : Agree (fun w => w.outerValues = s.outerValues)
      (Task.load r) (Task.load r) :=
    fun w hw => ⟨rfl, (Session.outerValues_load w r).trans hw⟩
  exact (htask.agree hload (fun _ _ hw => hw) s rfl).2

end UsesLoader

/-! ### The calls of a task -/

/-- The calls of work that uses a loader, in order. -/
structure IsCallsOf (task : Loader → Task ε α) (s : Session)
    (calls : List (Config.Request × Session)) : Prop where
  passes : Passes s.cache (calls.map .call) (task Task.load s).2.cache
  congr : ∀ other : Loader, (∀ c ∈ calls, other c.1 c.2 = Task.load c.1 c.2) →
    task other s = task Task.load s
  marks : ∀ c ∈ calls, s.outerValues.length < (task (markingLoader c) s).2.outerValues.length

namespace IsCallsOf

variable {task : Loader → Task ε α} {s : Session} {calls : List (Config.Request × Session)}

theorem nil (hcache : (task Task.load s).2.cache = s.cache)
    (hcongr : ∀ other, task other s = task Task.load s) : IsCallsOf task s [] :=
  ⟨hcache, fun other _ => hcongr other, List.forall_mem_nil _⟩

theorem call (r : Config.Request) (s : Session) : IsCallsOf (fun load => load r) s [(r, s)] where
  passes := ⟨rfl, rfl⟩
  congr other h := h (r, s) (List.mem_singleton_self _)
  marks := by
    rw [List.forall_mem_singleton, markingLoader_self, Session.marked, List.length_cons,
      Session.outerValues_load]
    exact Nat.lt_succ_self _

theorem adapt (explain : ε → ε') (h : IsCallsOf task s calls) :
    IsCallsOf (fun load => ((task load).adapt explain : Task ε' α)) s calls where
  passes := by
    rw [Task.adapt_apply]
    exact h.passes
  congr other hother := by rw [Task.adapt_apply, Task.adapt_apply, h.congr other hother]
  marks c hc := by
    rw [Task.adapt_apply]
    exact h.marks c hc

variable {next : α → Loader → Task ε β}

theorem lt_marks_bind (hnext : ∀ a, UsesLoader (next a)) {c : Config.Request × Session}
    (h : s.outerValues.length < (task (markingLoader c) s).2.outerValues.length) :
    s.outerValues.length <
      ((task (markingLoader c) >>= fun a => next a (markingLoader c)) s).2.outerValues.length := by
  rw [Task.bind_apply]
  rcases htask : task (markingLoader c) s with ⟨e | a, s'⟩
  · rwa [htask] at h
  · rw [htask] at h
    exact Nat.lt_of_lt_of_le h ((hnext a).le_marks c s')

theorem bind_error {e : ε} {s' : Session} (h : IsCallsOf task s calls)
    (htask : task Task.load s = (.error e, s')) (hnext : ∀ a, UsesLoader (next a)) :
    IsCallsOf (fun load => task load >>= fun a => next a load) s calls where
  passes := by
    have hpasses := h.passes
    rw [htask] at hpasses
    rw [Task.bind_apply, htask]
    exact hpasses
  congr other hother := by rw [Task.bind_apply, Task.bind_apply, h.congr other hother, htask]
  marks c hc := lt_marks_bind hnext (h.marks c hc)

theorem bind_ok {a : α} {s' : Session} {calls' : List (Config.Request × Session)}
    (h : IsCallsOf task s calls) (huses : UsesLoader task) (htask : task Task.load s = (.ok a, s'))
    (hnext : ∀ a, UsesLoader (next a)) (h' : IsCallsOf (next a) s' calls') :
    IsCallsOf (fun load => task load >>= fun a => next a load) s (calls ++ calls') where
  passes := by
    have hpasses := h.passes
    rw [htask] at hpasses
    rw [Task.bind_apply, htask, List.map_append]
    exact passes_append.2 ⟨s'.cache, hpasses, h'.passes⟩
  congr other hother := by
    obtain ⟨hfirst, hsecond⟩ := List.forall_mem_append.1 hother
    rw [Task.bind_apply, Task.bind_apply, h.congr other hfirst, htask]
    exact h'.congr other hsecond
  marks c hc := by
    by_cases hfirst : c ∈ calls
    · exact lt_marks_bind hnext (h.marks c hfirst)
    · -- The first task does not see the mark, so that the second starts as with the usual loader.
      have hsecond : c ∈ calls' := (List.mem_append.1 hc).resolve_left hfirst
      have hsame : task (markingLoader c) s = (.ok a, s') := by
        rw [← htask]
        exact h.congr _ fun c' hc' => markingLoader_of_ne fun heq => hfirst (heq ▸ hc')
      have houter := huses.outerValues_eq s
      rw [htask] at houter
      rw [Task.bind_apply, hsame, ← houter]
      exact h'.marks c hsecond

end IsCallsOf

theorem UsesLoader.exists_calls {task : Loader → Task ε α} (htask : UsesLoader task) (s : Session) :
    ∃ calls, IsCallsOf task s calls := by
  induction htask generalizing s with
  | pure | throw | get | ofExcept | note => exact ⟨[], .nil rfl fun _ => rfl⟩
  | call r => exact ⟨_, .call r s⟩
  | adapt explain _ ih =>
    obtain ⟨calls, hcalls⟩ := ih s
    exact ⟨calls, hcalls.adapt explain⟩
  | @bind _ _ _ task _ huses hnext ihtask ihnext =>
    obtain ⟨calls, hcalls⟩ := ihtask s
    rcases htask : task Task.load s with ⟨e | a, s'⟩
    · exact ⟨calls, hcalls.bind_error htask hnext⟩
    · obtain ⟨calls', hcalls'⟩ := ihnext a s'
      exact ⟨calls ++ calls', hcalls.bind_ok huses htask hnext hcalls'⟩

/-! ### The calls of an action -/

namespace Session

variable {s : Session} {a : Action}

/-- The calls that an action makes, in order. -/
structure IsCallList (s : Session) (a : Action) (calls : List (Config.Request × Session)) :
    Prop where
  mem_iff : ∀ r v, (r, v) ∈ calls ↔ s.CallsLoader a r v
  passes : Passes s.cache (calls.map .call) (s.perform a).2.cache

/-- Every action that clears nothing has a list of its calls. -/
theorem exists_isCallList (hkeeps : ¬ s.Clears a) : ∃ calls, s.IsCallList a calls := by
  cases ha : a.leavesSurroundings with
  | false =>
    refine ⟨[], fun r v => ?_, cache_perform_of_not_clears ha hkeeps⟩
    constructor
    · intro h
      cases h
    · rintro ⟨other, -, hne⟩
      exact absurd (performBy_congr ha Task.load other s) hne
  | true =>
    obtain ⟨ε, α, task, explain, wrap, htask, hperform⟩ := Action.exists_task ha
    obtain ⟨calls, hcalls⟩ := htask.exists_calls s
    refine ⟨calls, fun r v => ⟨fun hmem => ?_, ?_⟩, ?_⟩
    · -- The loader that marks the call leaves another session behind.
      refine ⟨markingLoader (r, v), fun q w hne => markingLoader_of_ne hne, fun heq => ?_⟩
      have hmarks := hcalls.marks (r, v) hmem
      rw [perform, hperform, hperform] at heq
      have hsession := congrArg Prod.snd heq
      rw [answer_snd, answer_snd] at hsession
      rw [hsession, htask.outerValues_eq] at hmarks
      exact Nat.lt_irrefl _ hmarks
    · -- A loader that differs at no call of the list makes no difference.
      rintro ⟨other, hother, hne⟩
      by_contra hmem
      have hsame := hcalls.congr other fun c hc => hother c.1 c.2 fun heq => hmem (heq ▸ hc)
      rw [perform, hperform, hperform, answer, answer, hsame] at hne
      exact hne rfl
    · rw [perform, hperform, answer_snd]
      exact hcalls.passes

end Session

end ColorLiteral
