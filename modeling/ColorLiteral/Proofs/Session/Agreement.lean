import ColorLiteral.Proofs.Session.Uses

/-!
# Tasks that do the same

`Agree P task task'` says that two tasks do the same from every session with the property `P`, and
that `P` holds afterwards. It goes through all ways to compose tasks. So two loaders that agree are
as good as each other in all work that uses a loader (`UsesLoader.agree`), and an action that leaves
the surroundings alone keeps `P` (`performBy_agree`).
-/

namespace ColorLiteral

variable {ε ε' α β : Type} {P : Session → Prop}

/-- From every session with a property two tasks do the same, and the property is kept. -/
def Agree (P : Session → Prop) (task task' : Task ε α) : Prop :=
  ∀ s, P s → task' s = task s ∧ P (task s).2

namespace Agree

variable {task task' : Task ε α}

theorem pure (a : α) : Agree P (pure a : Task ε α) (pure a) := fun _ hs => ⟨rfl, hs⟩

theorem throw (e : ε) : Agree P (throw e : Task ε α) (throw e) := fun _ hs => ⟨rfl, hs⟩

theorem ofExcept (outcome : Except ε α) :
    Agree P (Task.ofExcept outcome) (Task.ofExcept outcome) := fun _ hs => ⟨rfl, hs⟩

theorem get : Agree P (get : Task ε Session) get := fun _ hs => ⟨rfl, hs⟩

theorem note (hnote : ∀ s event, P s → P (s.note event)) (event : Event) :
    Agree P (Task.note event : Task ε Unit) (Task.note event) :=
  fun s hs => ⟨rfl, hnote s event hs⟩

theorem bind {next next' : α → Task ε β} (htask : Agree P task task')
    (hnext : ∀ a, Agree P (next a) (next' a)) : Agree P (task >>= next) (task' >>= next') := by
  intro s hs
  obtain ⟨heq, hkept⟩ := htask s hs
  rw [Task.bind_apply, Task.bind_apply, heq]
  rcases htask : task s with ⟨e | a, s'⟩
  · exact ⟨rfl, by rwa [htask] at hkept⟩
  · rw [htask] at hkept
    exact hnext a s' hkept

theorem adapt (explain : ε → ε') (htask : Agree P task task') :
    Agree P (task.adapt explain : Task ε' α) (task'.adapt explain) := by
  intro s hs
  obtain ⟨heq, hkept⟩ := htask s hs
  rw [Task.adapt_apply, Task.adapt_apply, heq]
  exact ⟨rfl, hkept⟩

end Agree

/-- Loaders that agree are as good as each other in all work that uses a loader. -/
theorem UsesLoader.agree {load load' : Loader} {task : Loader → Task ε α} (htask : UsesLoader task)
    (hload : ∀ r, Agree P (load r) (load' r)) (hnote : ∀ s event, P s → P (s.note event)) :
    Agree P (task load) (task load') := by
  induction htask with
  | pure a => exact .pure a
  | throw e => exact .throw e
  | get => exact .get
  | ofExcept outcome => exact .ofExcept outcome
  | note event => exact .note hnote event
  | call r => exact hload r
  | bind _ _ ihtask ihnext => exact ihtask.bind ihnext
  | adapt explain _ ih => exact ih.adapt explain

/-! ### Actions -/

namespace Session

variable {load load' : Loader}

theorem answer_agree {task task' : Task ε α} (htask : Agree P task task') {s : Session} (hs : P s)
    (explain : ε → ExpandError) (wrap : α → ActionResult) :
    s.answer task' explain wrap = s.answer task explain wrap ∧
      P (s.answer task explain wrap).2 := by
  obtain ⟨heq, hkept⟩ := htask s hs
  rw [answer, answer, heq]
  rcases htask : task s with ⟨e | a, s'⟩
  all_goals
    rw [htask] at hkept
    exact ⟨rfl, hkept⟩

/-- Loaders that agree answer every action alike. The property is kept by the actions that leave
the surroundings alone. -/
theorem performBy_agree (hload : ∀ r, Agree P (load r) (load' r))
    (hnote : ∀ s event, P s → P (s.note event)) {s : Session} (hs : P s) (a : Action) :
    s.performBy load' a = s.performBy load a ∧
      (a.leavesSurroundings = true → P (s.performBy load a).2) := by
  cases ha : a.leavesSurroundings with
  | false => exact ⟨performBy_congr ha load load' s, fun h => by cases h⟩
  | true =>
    obtain ⟨ε, α, task, explain, wrap, htask, heq⟩ := Action.exists_task ha
    obtain ⟨hsame, hkept⟩ := answer_agree (htask.agree hload hnote) hs explain wrap
    rw [heq, heq]
    exact ⟨hsame, fun _ => hkept⟩

end Session

end ColorLiteral
