import ColorLiteral.Proofs.Config.Keys
import ColorLiteral.Session.Emission

/-!
# Sessions that offer a surface table

A session offers a surface table when loading the settings in it gives this table, from the files or
from memory. Loading again gives the same table (`ends_surfaceTable`), so all the work with surfaces
ends as the table says, and the session goes on offering it: `Ends P task outcome` says that a task
has an outcome in every session with the property `P`, and that it keeps `P`.
-/

namespace ColorLiteral

variable {ε ε' α β : Type} {P : Session → Prop}

/-! ### Outcomes of tasks -/

/-- In every session with a property a task has an outcome, and the property is kept. -/
def Ends (P : Session → Prop) (task : Task ε α) (outcome : Except ε α) : Prop :=
  ∀ s, P s → (task s).1 = outcome ∧ P (task s).2

namespace Ends

variable {task : Task ε α}

theorem pure (a : α) : Ends P (pure a : Task ε α) (.ok a) := fun _ hs => ⟨rfl, hs⟩

theorem throw (e : ε) : Ends P (throw e : Task ε α) (.error e) := fun _ hs => ⟨rfl, hs⟩

theorem note (hnote : ∀ s event, P s → P (s.note event)) (event : Event) :
    Ends P (Task.note event : Task ε Unit) (.ok ()) := fun s hs => ⟨rfl, hnote s event hs⟩

theorem get_bind {next : Session → Task ε β} {outcome : Except ε β}
    (hnext : ∀ s, P s → Ends P (next s) outcome) : Ends P (get >>= next) outcome :=
  fun s hs => hnext s hs s hs

theorem bind {a : α} {next : α → Task ε β} {outcome : Except ε β} (htask : Ends P task (.ok a))
    (hnext : Ends P (next a) outcome) : Ends P (task >>= next) outcome := by
  intro s hs
  obtain ⟨heq, hkept⟩ := htask s hs
  rw [Task.bind_apply]
  rcases htask : task s with ⟨o, s'⟩
  rw [htask] at heq hkept
  obtain rfl : o = .ok a := heq
  exact hnext s' hkept

theorem bind_error {e : ε} (next : α → Task ε β) (htask : Ends P task (.error e)) :
    Ends P (task >>= next) (.error e) := by
  intro s hs
  obtain ⟨heq, hkept⟩ := htask s hs
  rw [Task.bind_apply]
  rcases htask : task s with ⟨o, s'⟩
  rw [htask] at heq hkept
  obtain rfl : o = .error e := heq
  exact ⟨rfl, hkept⟩

theorem adapt {outcome : Except ε α} (explain : ε → ε') (htask : Ends P task outcome) :
    Ends P (task.adapt explain : Task ε' α) (outcome.mapError explain) := by
  intro s hs
  obtain ⟨heq, hkept⟩ := htask s hs
  rw [Task.adapt_apply, heq]
  exact ⟨rfl, hkept⟩

theorem forM_note (hnote : ∀ s event, P s → P (s.note event)) (events : List Event) :
    Ends P (events.forM Task.note : Task ε Unit) (.ok ()) := by
  induction events with
  | nil => exact pure ()
  | cons event events ih => exact (note hnote event).bind ih

theorem mapM {f : α → Task ε β} {g : α → β} (xs : List α) (hf : ∀ x, Ends P (f x) (.ok (g x))) :
    Ends P (xs.mapM f) (.ok (xs.map g)) := by
  induction xs with
  | nil => exact pure []
  | cons x xs ih =>
    rw [List.mapM_cons]
    exact (hf x).bind (ih.bind (pure _))

end Ends

/-! ### Loading again -/

/-- What was loaded is loaded again, with nothing new to remember. -/
theorem Config.Request.load_load {r : Config.Request} {h : Config.Host} {c c' : Config.Cache}
    {loaded : Config.Loaded} (hload : r.load h c = (.ok loaded, c')) :
    ∃ again, r.load h c' = (.ok again, c') ∧ again.value = loaded.value ∧
      again.file = loaded.file := by
  have hloading := r.loading h c
  rw [hload] at hloading
  cases hloading with
  | remembered hfound hentry => exact ⟨_, load_of_find? hfound hentry, rfl, rfl⟩
  | stored hfound => exact ⟨_, load_of_find? hfound (c.find?_remember _ _), rfl, rfl⟩

namespace Session

/-- The settings that a session loads, from the files or from memory, are those of a surface
table. -/
def Offers (s : Session) (table : SurfaceTable) : Prop :=
  ∃ loaded, ((SurfaceTable.request s.host.hasRelaxedReader).load s.host s.cache).1 = .ok loaded ∧
    SurfaceTable.ofValue loaded.file loaded.value = .ok table

/-- A session that offers a surface table, with an environment and with attributes of texts. -/
structure IsOffering (attributes : Template.Attributes) (environment : Environment)
    (table : SurfaceTable) (s : Session) : Prop where
  attributes_eq : s.host.attributes = attributes
  environment_eq : s.host.environment = environment
  offers : s.Offers table

end Session

open Session (IsOffering)

variable {attributes : Template.Attributes} {environment : Environment} {table : SurfaceTable}

theorem Session.IsOffering.note {s : Session} (hs : IsOffering attributes environment table s)
    (event : Event) : IsOffering attributes environment table (s.note event) :=
  ⟨hs.attributes_eq, hs.environment_eq, hs.offers⟩

theorem ends_note (event : Event) :
    Ends (IsOffering attributes environment table) (Task.note event : Task ε Unit) (.ok ()) :=
  .note (fun _ event hs => hs.note event) event

theorem ends_forM_note (events : List Event) :
    Ends (IsOffering attributes environment table) (events.forM Task.note : Task ε Unit) (.ok ()) :=
  .forM_note (fun _ event hs => hs.note event) events

/-! ### Work with surfaces -/

/-- The surface table is the one in what is loaded. -/
theorem surfaceTable_apply (s : Session) : Loader.surfaceTable Task.load s =
    match (SurfaceTable.request s.host.hasRelaxedReader).load s.host s.cache with
    | (.ok loaded, cache) =>
      ((SurfaceTable.ofValue loaded.file loaded.value).mapError .config,
        { s with cache }.note
          (Task.loadEvent (SurfaceTable.request s.host.hasRelaxedReader) loaded))
    | (.error e, cache) => (.error (.config e), { s with cache }) := by
  rw [Loader.surfaceTable, Task.bind_apply, Task.get_apply]
  dsimp only
  rw [Task.bind_apply, Task.adapt_apply, Task.load_apply]
  rcases (SurfaceTable.request s.host.hasRelaxedReader).load s.host s.cache with ⟨_ | _, _⟩ <;> rfl

/-- A session that offers a surface table gives it, and goes on offering it. -/
theorem ends_surfaceTable :
    Ends (IsOffering attributes environment table) (Loader.surfaceTable Task.load) (.ok table) := by
  rintro s ⟨hattributes, henvironment, loaded, hload, htable⟩
  rcases houtcome : (SurfaceTable.request s.host.hasRelaxedReader).load s.host s.cache with ⟨o, c⟩
  obtain rfl : o = .ok loaded := by rw [houtcome] at hload; exact hload
  obtain ⟨again, hagain, hvalue, hfile⟩ := Config.Request.load_load houtcome
  rw [surfaceTable_apply, houtcome]
  dsimp only
  rw [htable]
  refine ⟨rfl, hattributes, henvironment, again, congrArg Prod.fst hagain, ?_⟩
  rw [hfile, hvalue, htable]

/-- The name of the surface that is used for a choice: the chosen name, else the one of the
environment, else the one that the table prefers. -/
def SurfaceTable.nameFor? (table : SurfaceTable) (environment : Environment) :
    Option Text → Option Text
  | some (c :: cs) => some (c :: cs)
  | _ =>
    let named := Text.trim ((environment Environment.surface).getD [])
    if named.isEmpty then table.preferredName? else some named

theorem SurfaceTable.nameFor?_of_ne_nil (table : SurfaceTable) (environment : Environment)
    {name : Text} (hname : name ≠ []) : table.nameFor? environment (some name) = some name := by
  cases name with
  | nil => exact absurd rfl hname
  | cons c cs => rfl

variable {choice : Option Text} {name : Text}

theorem ends_preferredSurface (hname : table.nameFor? environment none = some name) :
    Ends (IsOffering attributes environment table)
      (Loader.preferredSurface Task.load) (.ok name) := by
  refine Ends.get_bind fun s hs => ?_
  rw [hs.environment_eq]
  simp only [SurfaceTable.nameFor?] at hname
  split at hname
  · next hempty =>
    rw [if_pos hempty]
    refine ends_surfaceTable.bind ?_
    rw [hname]
    exact .pure name
  · next hnamed =>
    rw [if_neg hnamed]
    cases hname
    exact .pure _

theorem ends_surfaceName (hname : table.nameFor? environment choice = some name) :
    Ends (IsOffering attributes environment table)
      (Loader.surfaceName Task.load choice) (.ok name) := by
  unfold Loader.surfaceName
  split
  · cases hname
    exact .pure _
  · next hempty =>
    refine ends_preferredSurface ?_
    rw [← hname]
    cases choice with
    | none => rfl
    | some t =>
      cases t with
      | nil => rfl
      | cons c cs => exact absurd rfl (hempty c cs)

/-- A known surface is found in the table. -/
theorem ends_surface {surface : Surface} (hname : table.nameFor? environment choice = some name)
    (hsurface : table.surface? name = some surface) :
    Ends (IsOffering attributes environment table)
      (Loader.surface Task.load choice) (.ok surface) := by
  refine (ends_surfaceName hname).bind (ends_surfaceTable.bind ?_)
  rw [hsurface]
  exact .pure surface

/-- An unknown surface is reported with the names of the table. -/
theorem ends_surface_unknown (hname : table.nameFor? environment choice = some name)
    (hsurface : table.surface? name = none) :
    Ends (IsOffering attributes environment table) (Loader.surface Task.load choice)
      (.error (.unknownSurface name table.names)) := by
  refine (ends_surfaceName hname).bind (ends_surfaceTable.bind ?_)
  rw [hsurface]
  exact .throw _

theorem ends_writeFallback {surface : Surface}
    (hname : table.nameFor? environment choice = some name)
    (hsurface : table.surface? name = some surface) :
    Ends (IsOffering attributes environment table) (Loader.writeFallback Task.load choice)
      (.ok surface.fallback) :=
  (ends_surface hname hsurface).bind (.pure _)

theorem ends_writeColor {surface : Surface}
    (hname : table.nameFor? environment choice = some name)
    (hsurface : table.surface? name = some surface) (color : Rgba) :
    Ends (IsOffering attributes environment table) (Loader.writeColor Task.load color choice)
      ((surface.write attributes color).mapError .template) := by
  refine Ends.get_bind fun s hs => (ends_surface hname hsurface).bind ?_
  rw [hs.attributes_eq]
  cases surface.write attributes color with
  | ok expression => exact (ends_note _).bind (.pure expression)
  | error fault => exact .throw _

theorem ends_writeColor_unknown (hname : table.nameFor? environment choice = some name)
    (hsurface : table.surface? name = none) (color : Rgba) :
    Ends (IsOffering attributes environment table) (Loader.writeColor Task.load color choice)
      (.error (.unknownSurface name table.names)) :=
  Ends.get_bind fun _ _ => (ends_surface_unknown hname hsurface).bind_error _

end ColorLiteral
