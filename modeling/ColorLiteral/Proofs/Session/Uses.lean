import ColorLiteral.Session.Action

/-!
# Work that uses a loader

`UsesLoader` says how work is put together from calls of a loader, notes and questions about the
session, so that facts about all such work are proved by induction, once for each way to compose.
All that is done with surfaces is such work (`UsesLoader.surface` and what is built on it), and so is
every action that leaves the surroundings alone (`Action.exists_task`). The other actions do not use
the loader at all (`Session.performBy_congr`).
-/

namespace ColorLiteral

variable {ε ε' α β : Type}

/-- Work that is put together from calls of a loader and from steps that change nothing but the
journal. -/
inductive UsesLoader : {ε α : Type} → (Loader → Task ε α) → Prop
  | pure {ε α : Type} (a : α) : UsesLoader fun _ => (pure a : Task ε α)
  | throw {ε α : Type} (e : ε) : UsesLoader fun _ => (throw e : Task ε α)
  | get {ε : Type} : UsesLoader fun _ => (get : Task ε Session)
  | ofExcept {ε α : Type} (outcome : Except ε α) : UsesLoader fun _ => Task.ofExcept outcome
  | note {ε : Type} (event : Event) : UsesLoader fun _ => (Task.note event : Task ε Unit)
  | call (r : Config.Request) : UsesLoader fun load => load r
  | bind {ε α β : Type} {task : Loader → Task ε α} {next : α → Loader → Task ε β}
      (htask : UsesLoader task) (hnext : ∀ a, UsesLoader (next a)) :
      UsesLoader fun load => task load >>= fun a => next a load
  | adapt {ε ε' α : Type} {task : Loader → Task ε α} (explain : ε → ε') (htask : UsesLoader task) :
      UsesLoader fun load => ((task load).adapt explain : Task ε' α)

namespace UsesLoader

theorem mapM {f : Loader → α → Task ε β} (hf : ∀ a, UsesLoader fun load => f load a) (as : List α) :
    UsesLoader fun load => as.mapM (f load) := by
  induction as with
  | nil => exact .pure []
  | cons a as ih =>
    simp only [List.mapM_cons]
    exact .bind (hf a) fun b => .bind ih fun bs => .pure (b :: bs)

theorem forM_note (events : List Event) :
    UsesLoader fun _ => (events.forM Task.note : Task ε Unit) := by
  induction events with
  | nil => exact .pure ()
  | cons event events ih => exact .bind (.note event) fun _ => ih

/-! ### Work with surfaces -/

theorem surfaceTable : UsesLoader Loader.surfaceTable :=
  .bind .get fun _ => .bind (.adapt _ (.call _)) fun _ => .adapt _ (.ofExcept _)

theorem preferredSurface : UsesLoader Loader.preferredSurface := by
  refine .bind .get fun s => ?_
  dsimp only
  generalize Text.trim ((s.host.environment Environment.surface).getD []) = chosen
  cases chosen with
  | cons c cs => exact .pure _
  | nil =>
    refine .bind surfaceTable fun table => ?_
    cases table.preferredName? with
    | none => exact .throw _
    | some name => exact .pure name

theorem surfaceName (name : Option Text) : UsesLoader fun load => load.surfaceName name := by
  match name with
  | some (c :: cs) => exact .pure _
  | some [] | none => exact preferredSurface

theorem surface (name : Option Text) : UsesLoader fun load => load.surface name := by
  refine .bind (surfaceName name) fun name => .bind surfaceTable fun table => ?_
  cases table.surface? name with
  | none => exact .throw _
  | some surface => exact .pure surface

theorem writeColor (color : Rgba) (name : Option Text) :
    UsesLoader fun load => load.writeColor color name := by
  refine .bind .get fun s => .bind (surface name) fun surface => ?_
  cases surface.write s.host.attributes color with
  | ok expression => exact .bind (.note _) fun _ => .pure expression
  | error fault => exact .throw _

theorem writeFallback (name : Option Text) : UsesLoader fun load => load.writeFallback name :=
  .bind (surface name) fun _ => .pure _

theorem writeResolution (name : Option Text) (resolution : Resolution) :
    UsesLoader fun load => load.writeResolution name resolution := by
  cases resolution with
  | color color => exact writeColor color name
  | failure => exact writeFallback name

theorem expandInvocation (source : Text) (i : Invocation) (name : Option Text) :
    UsesLoader fun load => load.expandInvocation source i name :=
  .bind (forM_note _) fun _ => .bind (writeResolution name _) fun _ => .pure _

theorem expand (source : Text) (name : Option Text) :
    UsesLoader fun load => load.expand source name := by
  unfold Loader.expand
  cases Invocation.parse source with
  | error error => exact .throw _
  | ok i => exact .adapt _ (expandInvocation source i name)

theorem expandLenient (name : Option Text) (source : Text) :
    UsesLoader fun load => load.expandLenient name source := by
  unfold Loader.expandLenient
  cases Invocation.parse source with
  | error error => exact .bind (.note _) fun _ => .bind (writeFallback name) fun _ => .pure _
  | ok i => exact expandInvocation source i name

theorem expandBatch (sources : List Text) (name : Option Text) :
    UsesLoader fun load => load.expandBatch sources name :=
  .bind (mapM (expandLenient name) sources) fun _ => .bind (.note _) fun _ => .pure _

end UsesLoader

/-! ### Actions -/

/-- Whether an action leaves the files, the environment and the reader of relaxed JSON alone and
clears nothing. -/
def Action.leavesSurroundings : Action → Bool
  | .nearestData _ | .load _ | .surfaceNames | .preferredSurface | .writeColor _ _
  | .writeFallback _ | .expand _ _ | .expandBatch _ _ => true
  | _ => false

variable {a : Action}

/-- An action that leaves the surroundings alone is the answer of work that uses the loader. -/
theorem Action.exists_task (ha : a.leavesSurroundings = true) :
    ∃ (ε α : Type) (task : Loader → Task ε α) (explain : ε → ExpandError) (wrap : α → ActionResult),
      UsesLoader task ∧ ∀ load s, Session.performBy load s a = s.answer (task load) explain wrap := by
  cases a with
  | nearestData start =>
    refine ⟨_, _, fun _ => get >>= fun s => Task.ofExcept (s.host.nearestData start),
      .emission ∘ .config, .path, .bind .get fun _ => .ofExcept _, fun load s => ?_⟩
    have htask : (get >>= fun s => Task.ofExcept (s.host.nearestData start) : Task _ Path) s =
        (s.host.nearestData start, s) := rfl
    simp only [Session.performBy, Session.answer, htask]
    cases s.host.nearestData start <;> rfl
  | load r => exact ⟨_, _, _, _, _, .call r, fun _ _ => rfl⟩
  | surfaceNames => exact ⟨_, _, _, _, _, .surfaceTable, fun _ _ => rfl⟩
  | preferredSurface => exact ⟨_, _, _, _, _, .preferredSurface, fun _ _ => rfl⟩
  | writeColor color name => exact ⟨_, _, _, _, _, .writeColor color name, fun _ _ => rfl⟩
  | writeFallback name => exact ⟨_, _, _, _, _, .writeFallback name, fun _ _ => rfl⟩
  | expand source name => exact ⟨_, _, _, _, _, .expand source name, fun _ _ => rfl⟩
  | expandBatch sources name => exact ⟨_, _, _, _, _, .expandBatch sources name, fun _ _ => rfl⟩
  | _ => cases ha

/-- The other actions do not use the loader. -/
theorem Session.performBy_congr (ha : a.leavesSurroundings = false) (load load' : Loader)
    (s : Session) : s.performBy load' a = s.performBy load a := by
  cases a with
  | write | makeDirectory | delete | assign | provideRelaxedReader | clearCache | enterBlock
  | leaveBlock => rfl
  | _ => cases ha

end ColorLiteral
