import ColorLiteral.Journal.Event

/-!
# Sessions

A session is what lasts from one operation to the next: the surroundings of the loader, the
remembered values, the blocks that have moved the directory of the settings, and the journal. A task
works on a session and ends in a value or an error; what it did to the session stays done either
way.
-/

namespace ColorLiteral

/-- What lasts from one operation to the next. -/
structure Session where
  host : Config.Host
  cache : Config.Cache
  /-- For every block that is entered, the innermost first, the value that the variable for the
  directory of the settings had outside of it. -/
  outerValues : List (Option Text)
  journal : List Event

/-- Work on a session that may end in an error. -/
abbrev Task (ε α : Type) := ExceptT ε (StateM Session) α

namespace Session

/-- A fresh session. -/
def start (host : Config.Host) : Session := ⟨host, .empty, [], []⟩

/-- The session with one more event in its journal. -/
def note (s : Session) (event : Event) : Session := { s with journal := s.journal ++ [event] }

/-! ### The directory of the settings -/

/-- Gives the variable for the directory of the settings a value, or none, and forgets all loaded
values. -/
def moveData (s : Session) (value : Option Text) : Session :=
  { s with
    host :=
      { s.host with
        environment := s.host.environment.assign Environment.dataDirectory value }
    cache := s.cache.clear }

/-- Enters a block with another directory of the settings. -/
def enterBlock (s : Session) (directory : Text) : Session :=
  let outer := s.host.environment Environment.dataDirectory
  { s.moveData (some directory) with outerValues := outer :: s.outerValues }

/-- Leaves the innermost block: the variable gets the value back that it had outside. -/
def leaveBlock (s : Session) : Session :=
  match s.outerValues with
  | [] => s
  | outer :: outerValues => { s.moveData outer with outerValues }

end Session

namespace Task

variable {ε α : Type}

/-- Ends in a given outcome. -/
def ofExcept (outcome : Except ε α) : Task ε α := ExceptT.mk (pure outcome)

/-- Takes note of an event. -/
def note (event : Event) : Task ε Unit := modify (·.note event)

/-! ### What a task does -/

theorem get_apply (s : Session) : (get : Task ε Session) s = (.ok s, s) := rfl

theorem bind_apply {β : Type} (task : Task ε α) (next : α → Task ε β) (s : Session) :
    (task >>= next) s =
      match task s with
      | (.ok a, s) => next a s
      | (.error e, s) => (.error e, s) := by
  show (ExceptT.bind task next : Task ε β) s = _
  simp only [ExceptT.bind, ExceptT.mk, ExceptT.bindCont, bind, StateT.bind]
  rcases task s with ⟨_ | _, _⟩ <;> rfl

theorem adapt_apply {ε' : Type} (explain : ε → ε') (task : Task ε α) (s : Session) :
    (task.adapt explain : Task ε' α) s = ((task s).1.mapError explain, (task s).2) := rfl

/-! ### Loading -/

/-- The event of a successful load. -/
def loadEvent (r : Config.Request) (loaded : Config.Loaded) : Event :=
  if loaded.isHit then .cacheHit loaded.file r.mode else .cacheStored loaded.file r.mode

/-- Loads what a request asks for. -/
def load (r : Config.Request) : Task Config.ConfigError Config.Loaded := do
  let s ← get
  let (outcome, cache) := r.load s.host s.cache
  set { s with cache }
  let loaded ← ofExcept outcome
  note (loadEvent r loaded)
  return loaded

/-- A load notes its event if it gives a value. The remembered values change either way as the
loader says. -/
theorem load_apply (r : Config.Request) (s : Session) :
    load r s =
      match r.load s.host s.cache with
      | (.ok loaded, cache) => (.ok loaded, { s with cache }.note (loadEvent r loaded))
      | (.error e, cache) => (.error e, { s with cache }) := by
  show (match r.load s.host s.cache with
    | (outcome, cache) =>
      ((ofExcept outcome >>= fun loaded => note (loadEvent r loaded) >>= fun _ => pure loaded :
        Task _ _) { s with cache })) = _
  rcases r.load s.host s.cache with ⟨_ | _, _⟩ <;> rfl

end Task

/-- A way in which tasks load what a request asks for. -/
abbrev Loader := Config.Request → Task Config.ConfigError Config.Loaded

end ColorLiteral
