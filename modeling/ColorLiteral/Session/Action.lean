import ColorLiteral.Session.Expansion

/-!
# Actions on a session

Everything that can happen to a session, as one type: changes of the surroundings, loads, and work
with surfaces. `Session.perform` does one action and answers it; `Session.after` is the session
after a whole list of them.
-/

namespace ColorLiteral

/-- Something that happens to a session. -/
inductive Action
  | write (path : Path) (file : File)
  | makeDirectory (path : Path)
  | delete (path : Path)
  | assign (name : Text) (value : Option Text)
  /-- From now on there is a reader for relaxed JSON, or none. -/
  | provideRelaxedReader (available : Bool)
  | clearCache
  | enterBlock (directory : Text)
  | leaveBlock
  /-- Looks for the nearest directory of settings, seen from a place. -/
  | nearestData (start : Path)
  | load (request : Config.Request)
  | surfaceNames
  | preferredSurface
  | writeColor (color : Rgba) (surface : Option Text)
  | writeFallback (surface : Option Text)
  | expand (source : Text) (surface : Option Text)
  | expandBatch (sources : List Text) (surface : Option Text)

/-- What an action gives. -/
inductive ActionResult
  | done
  | text (value : Text)
  | variable (value : Option Text)
  | path (path : Path)
  | loaded (loaded : Config.Loaded)
  | names (names : List Text)
  | expansion (expansion : Expansion)
  | expansions (expansions : List Expansion)

/-- How an action answers. -/
abbrev Answer := Except ExpandError ActionResult

namespace Session

/-- Replaces the files of a session. -/
def mapFiles (s : Session) (f : FileTree → FileTree) : Session :=
  { s with host := { s.host with files := f s.host.files } }

/-- Does a task and wraps what it gives. -/
def answer {ε α : Type} (s : Session) (task : Task ε α) (explain : ε → ExpandError)
    (wrap : α → ActionResult) : Answer × Session :=
  match task s with
  | (.ok a, s) => (.ok (wrap a), s)
  | (.error e, s) => (.error (explain e), s)

/-- The value of the variable for the directory of the settings. -/
def dataVariable (s : Session) : ActionResult :=
  .variable (s.host.environment Environment.dataDirectory)

/-- The answer to a change of the files at a path. -/
def change (s : Session) (path : Path) (f : FileTree → FileTree) : Answer × Session :=
  if path.hasNul then (.error (.emission (.config .nul)), s) else (.ok .done, s.mapFiles f)

/-- Does an action with a loader. -/
def performBy (load : Loader) (s : Session) : Action → Answer × Session
  | .write path file => s.change path (·.write path file)
  | .makeDirectory path => s.change path (·.makeDirectory path)
  | .delete path => s.change path (·.delete path)
  | .assign name value =>
    if (value.getD []).hasNul then (.error (.emission (.config .nul)), s)
    else
      (.ok .done,
        { s with host := { s.host with environment := s.host.environment.assign name value } })
  | .provideRelaxedReader available =>
    (.ok .done, { s with host := { s.host with hasRelaxedReader := available } })
  | .clearCache => (.ok .done, { s with cache := s.cache.clear })
  | .enterBlock directory =>
    if directory.hasNul then (.error (.emission (.config .nul)), s)
    else
      let s := s.enterBlock directory
      (.ok s.dataVariable, s)
  | .leaveBlock =>
    let s := s.leaveBlock
    (.ok s.dataVariable, s)
  | .nearestData start =>
    match s.host.nearestData start with
    | .ok path => (.ok (.path path), s)
    | .error e => (.error (.emission (.config e)), s)
  | .load request => s.answer (load request) (.emission ∘ .config) .loaded
  | .surfaceNames =>
    s.answer load.surfaceTable .emission fun table => .names table.names
  | .preferredSurface => s.answer load.preferredSurface .emission .text
  | .writeColor color surface => s.answer (load.writeColor color surface) .emission .text
  | .writeFallback surface => s.answer (load.writeFallback surface) .emission .text
  | .expand source surface => s.answer (load.expand source surface) id .expansion
  | .expandBatch sources surface =>
    s.answer (load.expandBatch sources surface) .emission .expansions

/-- Does an action. -/
def perform (s : Session) (action : Action) : Answer × Session := s.performBy Task.load action

/-- The answers to a list of actions, one after another. -/
def performAll (s : Session) : List Action → List Answer
  | [] => []
  | action :: actions =>
    let (answer, s) := s.perform action
    answer :: s.performAll actions

/-- The session after a list of actions. -/
def after (s : Session) (actions : List Action) : Session :=
  actions.foldl (fun s action => (s.perform action).2) s

end Session

end ColorLiteral
