import ColorLiteral.Proofs.Json.DistinctKeys
import ColorLiteral.Proofs.Session.Confinement
import ColorLiteral.Proofs.Session.Offering
import ColorLiteral.Proofs.Surface.Check
import ColorLiteral.Proofs.Surface.Packaged

/-!
# Sessions with surface settings

The surface settings of a session are the object that is remembered of the file of the surface
table, or else the object that is read from it. Either they are a surface table, and then all the
work with surfaces goes by their entries (`Session.WritesFrom`), or nothing is done for any surface
and their shape is reported (`Session.checked_settings_serve`).

The keys of the settings are distinct, also where the settings are remembered from a file that has
changed since (`Session.HasSettings.nodup_keys`). For settings in relaxed JSON this is up to the
reader that the system has for them (`Config.Readers.KeepKeysApart`).
-/

namespace ColorLiteral

open Config (Host Located Members Request Value)

/-! ### Reading the settings -/

/-- The reader for relaxed JSON gives no object that has a key twice. -/
def Config.Readers.KeepKeysApart (readers : Config.Readers) : Prop :=
  ∀ source value, readers.relaxed source = .ok value → value.HasDistinctKeys

theorem Config.Host.keepKeysApart_programReaders : Host.programReaders.KeepKeysApart :=
  fun _ _ hread => Json.Relaxed.hasDistinctKeys_read (Outcome.mapError_eq_ok_iff.1 hread)

theorem Config.Host.hasDistinctKeys_of_read {h : Host} {path : Path} {bytes : List UInt8}
    {encoding : Text} {relaxed : Bool} {value : Value} (hkeys : h.readers.KeepKeysApart)
    (hread : h.read path bytes encoding relaxed = .ok value) : value.HasDistinctKeys := by
  unfold Host.read at hread
  split at hread
  · cases hread
  split at hread
  · cases hread
  · cases hread
  unfold Host.readText at hread
  split at hread
  · cases hread
  split at hread
  · cases hread
  split at hread
  · exact hkeys _ _ (Outcome.mapError_eq_ok_iff.1 hread)
  · exact Json.hasDistinctKeys_readStrict (Outcome.mapError_eq_ok_iff.1 hread)

namespace SurfaceTable

variable {r : Request} {h : Host} {found : Located} {settings : Members} {table : SurfaceTable}
  {value : Value}

/-- What a request with the check of the surface table makes of an object. -/
theorem valueOf_eq (hmode : r.mode = .checked) (hcheck : r.check = some .surfaces)
    (hread : h.read found.path found.file.bytes r.encoding r.relaxed = .ok (.object settings)) :
    r.valueOf h found =
      match check settings with
      | .ok settings => .ok (.object settings)
      | .error reason => .error (.rejected found.path.name reason) := by
  rw [Request.valueOf, hread, hmode, hcheck]
  rfl

/-- A request with the check of the surface table gives surface tables, as they are read. -/
theorem exists_read_of_valueOf (hmode : r.mode = .checked) (hcheck : r.check = some .surfaces)
    (hvalue : r.valueOf h found = .ok value) : ∃ settings, value = .object settings ∧
      IsTable settings ∧
      h.read found.path found.file.bytes r.encoding r.relaxed = .ok (.object settings) := by
  obtain ⟨read, hread, htreat⟩ := Outcome.bind_eq_ok_iff.1 hvalue
  rw [hmode, hcheck] at htreat
  cases read with
  | object settings =>
    rw [valueOf_eq hmode hcheck hread] at hvalue
    split at hvalue
    · next hpass =>
      obtain ⟨htable, rfl⟩ := check_eq_ok_iff.1 hpass
      cases hvalue
      exact ⟨_, rfl, htable, hread⟩
    · cases hvalue
  | _ => cases htreat

theorem ofValue_eq_ok_iff {file : Text} :
    ofValue file (.object settings) = .ok table ↔ ofMembers settings = .ok table := by
  rw [ofValue]
  cases ofMembers settings with
  | ok table' => simp
  | error fault => simp

end SurfaceTable

namespace Session

/-- The object that a load of the surface table works on: the one that is remembered of the file, or
else the one in the file. -/
structure HasSettings (s : Session) (found : Located) (settings : Members) : Prop where
  locate_eq : (SurfaceTable.request s.host.hasRelaxedReader).locate s.host = .ok found
  source :
    match s.cache.find? ((SurfaceTable.request s.host.hasRelaxedReader).keyOf found) with
    | some entry => entry.value = .object settings
    | none => s.host.read found.path found.file.bytes "utf-8" s.host.hasRelaxedReader =
        .ok (.object settings)

namespace HasSettings

open SurfaceTable (HasEntries ofMembers)

variable {s : Session} {found : Located} {settings entries : Members} {table : SurfaceTable}

theorem note (hs : s.HasSettings found settings) (event : Event) :
    (s.note event).HasSettings found settings := ⟨hs.locate_eq, hs.source⟩

/-- No surface has two entries in the settings of a session, after whatever has happened to it. -/
theorem nodup_keys {host : Host} {actions : List Action} (hkeys : host.readers.KeepKeysApart)
    (hrun : s = (start host).after actions) (hs : s.HasSettings found settings)
    (hentries : HasEntries settings entries) : (entries.map Prod.fst).Nodup := by
  have hkeysAfter (before : List Action) :
      ((start host).after before).host.readers.KeepKeysApart := by
    rw [readers_after]
    exact hkeys
  have hdistinct : Json.HasDistinctKeys (.object settings) := by
    have hsource := hs.source
    split at hsource
    · next entry hentry =>
      subst hrun
      obtain ⟨before, rest, -, r, found', hkey, -, hvalue⟩ :=
        remembersFrom_after host actions _ entry hentry
      obtain ⟨settings', hsettings, -, hread⟩ := SurfaceTable.exists_read_of_valueOf
        (congrArg Config.CacheKey.mode hkey) (congrArg Config.CacheKey.check hkey) hvalue
      rw [← hsource, hsettings]
      exact Host.hasDistinctKeys_of_read (hkeysAfter before) hread
    · exact Host.hasDistinctKeys_of_read (hrun ▸ hkeysAfter actions) hsource
  cases hdistinct.member hentries with
  | object hnodup => exact hnodup

/-! ### Loading the settings -/

theorem valueOf_eq (hs : s.HasSettings found settings)
    (hnone : s.cache.find? ((SurfaceTable.request s.host.hasRelaxedReader).keyOf found) = none) :
    (SurfaceTable.request s.host.hasRelaxedReader).valueOf s.host found =
      match SurfaceTable.check settings with
      | .ok settings => .ok (.object settings)
      | .error reason => .error (.rejected found.path.name reason) := by
  have hsource := hs.source
  rw [hnone] at hsource
  exact SurfaceTable.valueOf_eq rfl rfl hsource

/-- The table in the settings is offered. -/
theorem offers (hs : s.HasSettings found settings) (htable : ofMembers settings = .ok table) :
    s.Offers table := by
  have hvalue : SurfaceTable.ofValue found.path.name (.object settings) = .ok table :=
    SurfaceTable.ofValue_eq_ok_iff.2 htable
  have hsource := hs.source
  split at hsource
  · next entry hentry =>
    refine ⟨_, congrArg Prod.fst (Request.load_of_find? hs.locate_eq hentry), ?_⟩
    rw [hsource]
    exact hvalue
  · next hnone =>
    have hpass : SurfaceTable.check settings = .ok settings := by rw [SurfaceTable.check, htable]
    refine ⟨⟨.object settings, s.cache.stored, false, found.path.name⟩, ?_, hvalue⟩
    rw [Request.load_of_find?_eq_none hs.locate_eq hnone, hs.valueOf_eq hnone, hpass]

/-- A table that a fresh session offers is in settings of the session. -/
theorem of_offers (hs : s.Offers table) (hcache : s.cache = .empty) :
    ∃ found settings, s.HasSettings found settings ∧ ofMembers settings = .ok table := by
  obtain ⟨loaded, hload, htable⟩ := hs
  have hloading :=
    (SurfaceTable.request s.host.hasRelaxedReader).loading s.host s.cache
  generalize (SurfaceTable.request s.host.hasRelaxedReader).load s.host s.cache = result
    at hload hloading
  rw [hcache] at hloading
  cases hloading with
  | failed => cases hload
  | remembered _ hentry => cases hentry
  | @stored found value hfound _ hvalue =>
    cases hload
    obtain ⟨settings, rfl, -, hread⟩ := SurfaceTable.exists_read_of_valueOf rfl rfl hvalue
    refine ⟨found, settings, ⟨hfound, ?_⟩, SurfaceTable.ofValue_eq_ok_iff.1 htable⟩
    rw [hcache]
    exact hread

/-- Settings that are no table are reported for their shape, also where they are remembered. -/
theorem ends_surfaceTable_error {fault : SurfaceTable.Fault}
    (hfault : ofMembers settings = .error fault) :
    Ends (fun s => s.HasSettings found settings) (Loader.surfaceTable Task.load)
      (.error (.config (.rejected found.path.name (.wrongShape fault.message)))) := by
  intro s hs
  have hvalue : SurfaceTable.ofValue found.path.name (.object settings) =
      .error (.rejected found.path.name (.wrongShape fault.message)) := by
    rw [SurfaceTable.ofValue, hfault]
  have hsource := hs.source
  rw [surfaceTable_apply]
  split at hsource
  · next entry hentry =>
    rw [Request.load_of_find? hs.locate_eq hentry]
    dsimp only
    rw [hsource, hvalue]
    exact ⟨rfl, HasSettings.note hs _⟩
  · next hnone =>
    have hreject : SurfaceTable.check settings = .error (.wrongShape fault.message) := by
      rw [SurfaceTable.check, hfault]
    rw [Request.load_of_find?_eq_none hs.locate_eq hnone, valueOf_eq hs hnone, hreject]
    exact ⟨rfl, hs⟩

/-- Without a table no surface is given, named or not. -/
theorem ends_surface_error {fault : SurfaceTable.Fault} (hfault : ofMembers settings = .error fault)
    (choice : Option Text) :
    Ends (fun s => s.HasSettings found settings) (Loader.surface Task.load choice)
      (.error (.config (.rejected found.path.name (.wrongShape fault.message)))) := by
  unfold Loader.surface Loader.surfaceName
  split
  · exact (Ends.pure _).bind ((ends_surfaceTable_error hfault).bind_error _)
  · unfold Loader.preferredSurface
    rw [bind_assoc]
    refine Ends.get_bind fun s hs => ?_
    dsimp only
    split
    · exact ((ends_surfaceTable_error hfault).bind_error _).bind_error _
    · exact (Ends.pure _).bind ((ends_surfaceTable_error hfault).bind_error _)

theorem ends_writeColor_error {fault : SurfaceTable.Fault}
    (hfault : ofMembers settings = .error fault) (color : Rgba) (choice : Option Text) :
    Ends (fun s => s.HasSettings found settings) (Loader.writeColor Task.load color choice)
      (.error (.config (.rejected found.path.name (.wrongShape fault.message)))) :=
  Ends.get_bind fun _ _ => (ends_surface_error hfault choice).bind_error _

end HasSettings

end Session

/-! ### Answers -/

theorem Ends.answer {ε α : Type} {P : Session → Prop} {task : Task ε α} {outcome : Except ε α}
    {s : Session} (h : Ends P task outcome) (hs : P s) (explain : ε → ExpandError)
    (wrap : α → ActionResult) :
    (s.answer task explain wrap).1 = (outcome.map wrap).mapError explain := by
  obtain ⟨heq, -⟩ := h s hs
  rw [← heq, Session.answer]
  rcases task s with ⟨_ | _, _⟩ <;> rfl

/-- An action needs the surface table, whatever the environment says. -/
inductive Action.NeedsTable : Action → Prop
  | surfaceNames : NeedsTable .surfaceNames
  | writeColor (color : Rgba) (choice : Option Text) : NeedsTable (.writeColor color choice)
  | writeFallback (choice : Option Text) : NeedsTable (.writeFallback choice)

namespace Session

open SurfaceTable (Describes HasEntries IsTable)

/-- The work with named surfaces goes by some entries. The known names are those of the entries. -/
structure WritesFrom (s : Session) (entries : Members) (known : List Text) : Prop where
  surfaceNames : (s.perform .surfaceNames).1 = .ok (.names known)
  /-- They are ordered by code points, and none is repeated. -/
  sorted : known.Pairwise (· < ·)
  mem_known : ∀ name, name ∈ known ↔ name ∈ entries.map Prod.fst
  /-- A surface with an entry is used as the entry says. -/
  of_mem : ∀ name value, name ≠ [] → (name, value) ∈ entries →
    ∃ surface, Describes value surface ∧
      (s.perform (.writeFallback (some name))).1 = .ok (.text surface.fallback) ∧
      ∀ color : Rgba, (s.perform (.writeColor color (some name))).1 =
        ((Template.fill s.host.attributes color.templateValues surface.template).map
          .text).mapError (.emission ∘ .template)
  /-- A surface without an entry is reported with the known names. -/
  of_notMem : ∀ name, name ≠ [] → name ∉ entries.map Prod.fst →
    (s.perform (.writeFallback (some name))).1 =
      .error (.emission (.unknownSurface name known)) ∧
    ∀ color, (s.perform (.writeColor color (some name))).1 =
      .error (.emission (.unknownSurface name known))

variable {s : Session} {found : Located} {settings entries : Members} {table : SurfaceTable}

theorem Offers.writesFrom (hs : s.Offers table) (hread : table.ReadsFrom entries)
    (hkeys : (entries.map Prod.fst).Nodup) : s.WritesFrom entries table.names := by
  have hoffering : s.IsOffering s.host.attributes s.host.environment table := ⟨rfl, rfl, hs⟩
  constructor
  case surfaceNames => exact ends_surfaceTable.answer hoffering _ _
  case sorted => exact hread.pairwise_names hkeys
  case mem_known => exact fun name => hread.mem_names_iff
  case of_mem =>
    intro name value hne hmem
    obtain ⟨surface, hsurface, hdescribes⟩ := hread.exists_surface?_of_mem hkeys hmem
    have hname := table.nameFor?_of_ne_nil s.host.environment hne
    refine ⟨surface, hdescribes, ?_, fun color => ?_⟩
    · exact (ends_writeFallback hname hsurface).answer hoffering _ _
    · have hanswer := (ends_writeColor hname hsurface color).answer hoffering .emission .text
      refine hanswer.trans ?_
      rw [Surface.write]
      cases Template.fill s.host.attributes color.templateValues surface.template <;> rfl
  case of_notMem =>
    intro name hne hnotMem
    have hsurface := hread.surface?_of_notMem hnotMem
    have hname := table.nameFor?_of_ne_nil s.host.environment hne
    exact ⟨((ends_surface_unknown hname hsurface).bind_error _).answer hoffering _ _,
      fun color => (ends_writeColor_unknown hname hsurface color).answer hoffering _ _⟩

theorem perform_of_needsTable {fault : SurfaceTable.Fault} {action : Action}
    (hs : s.HasSettings found settings) (hfault : SurfaceTable.ofMembers settings = .error fault)
    (haction : action.NeedsTable) : (s.perform action).1 =
      .error (.emission (.config (.rejected found.path.name (.wrongShape fault.message)))) := by
  cases haction with
  | surfaceNames => exact (HasSettings.ends_surfaceTable_error hfault).answer hs _ _
  | writeColor color choice =>
    exact (HasSettings.ends_writeColor_error hfault color choice).answer hs _ _
  | writeFallback choice =>
    exact ((HasSettings.ends_surface_error hfault choice).bind_error _).answer hs _ _

/-- The check lets the settings of a session pass, unchanged, exactly if they are a surface table;
it turns all others down for their shape, which every use of the table then reports. The surfaces of
a table are used as their entries say, and the names of the entries are the known names. -/
theorem checked_settings_serve {host : Host} {actions : List Action}
    (hkeys : host.readers.KeepKeysApart) (hrun : s = (start host).after actions)
    (hs : s.HasSettings found settings) :
    (∀ settings', SurfaceTable.check settings = .ok settings' ↔
      IsTable settings ∧ settings' = settings) ∧
    (¬ IsTable settings → ∃ message, SurfaceTable.check settings = .error (.wrongShape message) ∧
      ∀ action : Action, action.NeedsTable → (s.perform action).1 =
        .error (.emission (.config (.rejected found.path.name (.wrongShape message))))) ∧
    (IsTable settings → ∃ entries known, HasEntries settings entries ∧
      s.WritesFrom entries known) := by
  refine ⟨fun settings' => SurfaceTable.check_eq_ok_iff, fun hno => ?_, fun htable => ?_⟩
  · obtain ⟨fault, hfault, hcheck⟩ := SurfaceTable.exists_check_eq_error hno
    exact ⟨fault.message, hcheck, fun action => perform_of_needsTable hs hfault⟩
  · obtain ⟨table, hread⟩ := SurfaceTable.isTable_iff.1 htable
    obtain ⟨entries, hentries, -⟩ := htable
    exact ⟨entries, table.names, hentries, (hs.offers hread).writesFrom
      (SurfaceTable.readsFrom_of_ofMembers hread hentries) (hs.nodup_keys hkeys hrun hentries)⟩

/-- The packaged surfaces in the order of their names, and what one of them gives. -/
theorem checked_settings_serve_packaged : ∃ found settings,
    (start (Host.packaged .empty)).HasSettings found settings ∧ IsTable settings ∧
    SurfaceTable.check settings = .ok settings ∧
    (∃ entries, HasEntries settings entries ∧ (start (Host.packaged .empty)).WritesFrom
      entries ["appkit".toList, "css".toList, "swiftui".toList, "uikit".toList]) ∧
    ((start (Host.packaged .empty)).perform
      (.writeColor (.ofBytes 255 136 0 255) (some "css".toList))).1 = .ok (.text "#ff8800ff") ∧
    ((start (Host.packaged .empty)).perform (.writeFallback (some "css".toList))).1 =
      .ok (.text "transparent") := by
  have hoffers : (start (Host.packaged .empty)).Offers .packaged :=
    offers_start_packaged rfl
  have hoffering : (start (Host.packaged .empty)).IsOffering .none .empty .packaged :=
    ⟨rfl, rfl, hoffers⟩
  have hkeys : (Host.packaged .empty).readers.KeepKeysApart := Host.keepKeysApart_programReaders
  obtain ⟨found, settings, hs, hread⟩ := HasSettings.of_offers hoffers rfl
  have htable : IsTable settings := SurfaceTable.isTable_iff.2 ⟨_, hread⟩
  have hrun : start (Host.packaged .empty) = (start (Host.packaged .empty)).after [] := rfl
  obtain ⟨hcheck, -, hwrites⟩ := checked_settings_serve hkeys hrun hs
  obtain ⟨entries, known, hentries, hwrites⟩ := hwrites htable
  have hnames : (.ok (.names known) : Answer) = .ok (.names SurfaceTable.packaged.names) :=
    hwrites.surfaceNames.symm.trans
      (ends_surfaceTable.answer hoffering .emission fun table => .names table.names)
  have hknown : known = SurfaceTable.packaged.names := by cases hnames; rfl
  have hperm : known.Perm ["appkit".toList, "css".toList, "swiftui".toList, "uikit".toList] := by
    rw [hknown]
    exact (List.mergeSort_perm _ _).trans (by decide)
  obtain rfl := hperm.eq_of_pairwise' hwrites.sorted (by decide)
  have hname : SurfaceTable.packaged.nameFor? .empty (some "css".toList) = some "css".toList := rfl
  have hwritten : Surface.write ⟨SurfaceTable.field "hexa", "transparent"⟩ .none
      (.ofBytes 255 136 0 255) = .ok "#ff8800ff" := by decide +kernel
  refine ⟨found, settings, hs, htable, (hcheck settings).2 ⟨htable, rfl⟩,
    ⟨entries, hentries, hwrites⟩, ?_, ?_⟩
  · have hanswer := (ends_writeColor hname SurfaceTable.surface?_css
      (.ofBytes 255 136 0 255)).answer hoffering .emission .text
    rw [hwritten] at hanswer
    exact hanswer
  · exact (ends_writeFallback hname SurfaceTable.surface?_css).answer hoffering .emission .text

end Session

end ColorLiteral
