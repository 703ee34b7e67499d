import ColorLiteral.Proofs.Outcome
import ColorLiteral.Session.Expansion

/-!
# The journal never shows

Work on sessions that differ in nothing but their journals ends alike, and leaves such sessions
behind. `Alike R task task'` says so of two tasks whose values are related by `R`, and goes through
all ways to compose tasks. Two invocations that resolve to the same are then expanded alike,
although different events are noted on the way (`alike_expand`).
-/

namespace ColorLiteral

/-- Two sessions differ in nothing but their journals. -/
structure Session.SameButJournal (s s' : Session) : Prop where
  host_eq : s.host = s'.host
  cache_eq : s.cache = s'.cache
  outerValues_eq : s.outerValues = s'.outerValues

namespace Session.SameButJournal

variable {s s' : Session}

theorem refl (s : Session) : s.SameButJournal s := ⟨rfl, rfl, rfl⟩

theorem note (hs : s.SameButJournal s') (event event' : Event) :
    (s.note event).SameButJournal (s'.note event') := ⟨hs.host_eq, hs.cache_eq, hs.outerValues_eq⟩

end Session.SameButJournal

variable {ε ε' α α' β β' : Type} {R : α → α' → Prop} {S : β → β' → Prop}

/-- Two tasks end alike on sessions that differ in nothing but their journals. -/
def Alike (R : α → α' → Prop) (task : Task ε α) (task' : Task ε α') : Prop :=
  ∀ s s' : Session, s.SameButJournal s' →
    Outcome.Related Eq R (task s).1 (task' s').1 ∧ (task s).2.SameButJournal (task' s').2

namespace Alike

variable {task : Task ε α} {task' : Task ε α'}

theorem pure {a : α} {a' : α'} (h : R a a') : Alike R (pure a : Task ε α) (pure a') :=
  fun _ _ hs => ⟨.ok h, hs⟩

theorem throw (e : ε) : Alike R (throw e : Task ε α) (throw e) := fun _ _ hs => ⟨.error rfl, hs⟩

theorem ofExcept (outcome : Except ε α) :
    Alike Eq (Task.ofExcept outcome) (Task.ofExcept outcome) := by
  intro s s' hs
  refine ⟨?_, hs⟩
  cases outcome with
  | error e => exact .error rfl
  | ok a => exact .ok rfl

theorem note (event event' : Event) :
    Alike Eq (Task.note event : Task ε Unit) (Task.note event') :=
  fun _ _ hs => ⟨.ok rfl, hs.note event event'⟩

theorem get_bind {next : Session → Task ε β} {next' : Session → Task ε β'}
    (hnext : ∀ s s', s.SameButJournal s' → Alike S (next s) (next' s')) :
    Alike S (get >>= next) (get >>= next') :=
  fun s s' hs => hnext s s' hs s s' hs

theorem bind {next : α → Task ε β} {next' : α' → Task ε β'} (htask : Alike R task task')
    (hnext : ∀ a a', R a a' → Alike S (next a) (next' a')) :
    Alike S (task >>= next) (task' >>= next') := by
  intro s s' hs
  obtain ⟨houtcome, hleft⟩ := htask s s' hs
  rw [Task.bind_apply, Task.bind_apply]
  generalize task s = result at houtcome hleft ⊢
  generalize task' s' = result' at houtcome hleft ⊢
  obtain ⟨o, t⟩ := result
  obtain ⟨o', t'⟩ := result'
  cases houtcome with
  | error he => exact ⟨.error he, hleft⟩
  | ok ha => exact hnext _ _ ha t t' hleft

theorem adapt (explain : ε → ε') (htask : Alike R task task') :
    Alike R (task.adapt explain : Task ε' α) (task'.adapt explain) := by
  intro s s' hs
  obtain ⟨houtcome, hleft⟩ := htask s s' hs
  rw [Task.adapt_apply, Task.adapt_apply]
  refine ⟨?_, hleft⟩
  generalize (task s).1 = o at houtcome
  generalize (task' s').1 = o' at houtcome
  cases houtcome with
  | error he => exact .error (congrArg explain he)
  | ok ha => exact .ok ha

theorem forM_note (events events' : List Event) :
    Alike Eq (events.forM Task.note : Task ε Unit) (events'.forM Task.note) := by
  have hleft (events : List Event) (s s' : Session) (hs : s.SameButJournal s') :
      ((events.forM Task.note : Task ε Unit) s).1 = .ok () ∧
        ((events.forM Task.note : Task ε Unit) s).2.SameButJournal s' := by
    induction events generalizing s with
    | nil => exact ⟨rfl, hs⟩
    | cons event events ih => exact ih (s.note event) ⟨hs.host_eq, hs.cache_eq, hs.outerValues_eq⟩
  intro s s' hs
  obtain ⟨hok, hsame⟩ := hleft events s s' hs
  obtain ⟨hok', hsame'⟩ := hleft events' s' s' (.refl s')
  rw [hok, hok']
  exact ⟨.ok rfl, hsame.host_eq.trans hsame'.host_eq.symm,
    hsame.cache_eq.trans hsame'.cache_eq.symm,
    hsame.outerValues_eq.trans hsame'.outerValues_eq.symm⟩

theorem load (r : Config.Request) : Alike Eq (Task.load r) (Task.load r) := by
  intro s s' hs
  rw [Task.load_apply, Task.load_apply, hs.host_eq, hs.cache_eq]
  rcases r.load s'.host s'.cache with ⟨_ | loaded, cache⟩
  · exact ⟨.error rfl, rfl, rfl, hs.outerValues_eq⟩
  · exact ⟨.ok rfl, rfl, rfl, hs.outerValues_eq⟩

/-! ### Work with surfaces -/

theorem surfaceTable :
    Alike Eq (Loader.surfaceTable Task.load) (Loader.surfaceTable Task.load) := by
  refine .get_bind fun s s' hs => ?_
  dsimp only
  rw [hs.host_eq]
  refine ((load _).adapt EmitError.config).bind ?_
  rintro loaded _ rfl
  exact (ofExcept _).adapt EmitError.config

theorem preferredSurface :
    Alike Eq (Loader.preferredSurface Task.load) (Loader.preferredSurface Task.load) := by
  refine .get_bind fun s s' hs => ?_
  dsimp only
  rw [hs.host_eq]
  split
  · refine surfaceTable.bind ?_
    rintro table _ rfl
    split
    · exact .pure rfl
    · exact .throw _
  · exact .pure rfl

theorem surface (choice : Option Text) :
    Alike Eq (Loader.surface Task.load choice) (Loader.surface Task.load choice) := by
  have hname : Alike Eq (Loader.surfaceName Task.load choice)
      (Loader.surfaceName Task.load choice) := by
    unfold Loader.surfaceName
    split
    · exact .pure rfl
    · exact preferredSurface
  refine hname.bind ?_
  rintro name _ rfl
  refine surfaceTable.bind ?_
  rintro table _ rfl
  split
  · exact .pure rfl
  · exact .throw _

theorem writeResolution (choice : Option Text) (resolution : Resolution) :
    Alike Eq (Loader.writeResolution Task.load choice resolution)
      (Loader.writeResolution Task.load choice resolution) := by
  cases resolution with
  | color color =>
    refine .get_bind fun s s' hs => ?_
    dsimp only
    rw [hs.host_eq]
    refine (surface choice).bind ?_
    rintro surface _ rfl
    split
    · next expression _ => exact (note _ _).bind fun _ _ _ => .pure rfl
    · exact .throw _
  | failure =>
    refine (surface choice).bind ?_
    rintro surface _ rfl
    exact .pure rfl

end Alike

/-! ### Expanding -/

/-- Two expansions have the same expression and the same outcome. The texts that are expanded may
differ. -/
structure Expansion.SameButSource (x y : Expansion) : Prop where
  expression_eq : x.expression = y.expression
  outcome_eq : x.outcome = y.outcome

variable {i j : Invocation} {source source' : Text}

/-- Invocations that resolve to the same are expanded alike. -/
theorem alike_expand (hsource : Invocation.parse source = .ok i)
    (hsource' : Invocation.parse source' = .ok j) (hresolve : i.resolve = j.resolve)
    (choice : Option Text) :
    Alike Expansion.SameButSource (Task.expand source choice) (Task.expand source' choice) := by
  have hinvocation : Alike Expansion.SameButSource
      (Loader.expandInvocation Task.load source i choice)
      (Loader.expandInvocation Task.load source' j choice) := by
    rw [Loader.expandInvocation, Loader.expandInvocation, ← hresolve]
    refine (Alike.forM_note _ _).bind fun _ _ _ => ?_
    refine (Alike.writeResolution choice i.resolve).bind ?_
    rintro expression _ rfl
    exact .pure ⟨rfl, rfl⟩
  rw [Task.expand, Task.expand, Loader.expand, Loader.expand, hsource, hsource']
  exact hinvocation.adapt ExpandError.emission

end ColorLiteral
