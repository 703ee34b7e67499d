import ColorLiteral.Proofs.Config.Confinement
import ColorLiteral.Proofs.Session.Blocks

/-!
# Loads stay in the directory of the settings

Whatever has happened to a session, a load gives a value only for a file in the directory of the
settings or below it, and the value is one that this very file had. A request for any other path is
turned down (`load_confined`). What is remembered from the time of another directory does not show.

A memory changes only when the loader is called and when it is cleared, so that a property that both
keep holds of the memory behind every run (`Session.cache_after`).
-/

namespace ColorLiteral

open Config (Cache CacheEntry CacheKey Loaded Value)

namespace Session

variable {s : Session} {a : Action} {actions : List Action} {Q : Cache → Prop}

/-! ### The memory behind a run -/

theorem cache_perform (hclear : ∀ c : Cache, Q c.clear)
    (hload : ∀ (r : Config.Request) c, Q c → Q (r.load s.host c).2) (hs : Q s.cache) :
    Q (s.perform a).2.cache := by
  by_cases hclears : s.Clears a
  · rw [cache_perform_of_clears hclears]
    exact hclear _
  · cases ha : a.leavesSurroundings with
    | false => rwa [cache_perform_of_not_clears ha hclears]
    | true =>
      have hcalls (r : Config.Request) :
          Agree (fun w => w.host = s.host ∧ Q w.cache) (Task.load r) (Task.load r) := by
        rintro w ⟨hhost, hw⟩
        refine ⟨rfl, (host_load w r).trans hhost, ?_⟩
        rw [cache_load, hhost]
        exact hload r _ hw
      exact ((performBy_agree hcalls (fun _ _ hw => hw) ⟨rfl, hs⟩ a).2 ha).2

/-- A property of memories holds behind a run if every clearing brings it about and the loader keeps
it in all surroundings on the way. -/
theorem cache_after (hclear : ∀ c : Cache, Q c.clear)
    (hload : ∀ before rest, actions = before ++ rest →
      ∀ (r : Config.Request) c, Q c → Q (r.load (s.after before).host c).2)
    (hs : Q s.cache) : Q (s.after actions).cache := by
  induction actions generalizing s with
  | nil => exact hs
  | cons a actions ih =>
    refine ih (fun before rest heq => ?_) (cache_perform hclear (hload [] _ rfl) hs)
    exact hload (a :: before) rest (by rw [heq, List.cons_append])

/-! ### Where remembered values come from -/

/-- At some time of a run, a file at the path had the value for the request. -/
def Had (s : Session) (actions : List Action) (r : Config.Request) (path : Path) (value : Value) :
    Prop :=
  ∃ before rest file, actions = before ++ rest ∧
    (s.after before).host.files.file? path = some file ∧
    r.valueOf (s.after before).host ⟨path, file⟩ = .ok value

/-- Every remembered value is one that the file of its key had at some time of the run. -/
def RemembersFrom (s : Session) (actions : List Action) (c : Cache) : Prop :=
  ∀ key entry, c.find? key = some entry → ∃ before rest, actions = before ++ rest ∧
    Config.IsValueIn (s.after before).host (s.after before).host.files key entry.value

theorem remembersFrom_clear (c : Cache) : s.RemembersFrom actions c.clear := by
  intro key entry hentry
  cases hentry

theorem RemembersFrom.load {before rest : List Action} {c : Cache} (heq : actions = before ++ rest)
    (hc : s.RemembersFrom actions c) (r : Config.Request) :
    s.RemembersFrom actions (r.load (s.after before).host c).2 := by
  have hloading := r.loading (s.after before).host c
  generalize r.load (s.after before).host c = result at hloading
  cases hloading with
  | failed | remembered => exact hc
  | @stored found value hfound _ hvalue =>
    intro key entry hentry
    by_cases hkey : key = r.keyOf found
    · rw [hkey, Cache.find?_remember] at hentry
      cases hentry
      exact ⟨before, rest, heq, r, found, hkey.symm, Config.file?_of_locate hfound, hvalue⟩
    · rw [Cache.find?_remember_of_ne c value hkey] at hentry
      exact hc key entry hentry

theorem remembersFrom_after (host : Config.Host) (actions : List Action) :
    (start host).RemembersFrom actions ((start host).after actions).cache :=
  cache_after remembersFrom_clear (fun _ _ heq r _ hc => hc.load heq r)
    (remembersFrom_clear .empty)

theorem numbers_after (host : Config.Host) (actions : List Action) :
    ((start host).after actions).cache.Numbers :=
  cache_after (fun _ => .of_entries_eq_nil rfl) (fun _ _ _ r _ hc => hc.load r _)
    (.of_entries_eq_nil rfl)

/-- A loaded value is one that the file of the request had at some time of the run. -/
theorem had_of_load {host : Config.Host} {r : Config.Request} {found : Config.Located}
    {loaded : Loaded} (hfound : r.locate ((start host).after actions).host = .ok found)
    (hloaded : (Task.load r ((start host).after actions)).1 = .ok loaded) :
    (start host).Had actions r found.path loaded.value := by
  have hloading := r.loading ((start host).after actions).host ((start host).after actions).cache
  rw [fst_load] at hloaded
  generalize r.load _ _ = result at hloading hloaded
  cases hloading with
  | failed => cases hloaded
  | @remembered found' entry hfound' hentry =>
    cases hfound.symm.trans hfound'
    cases hloaded
    obtain ⟨before, rest, heq, r', found', hkey, hfile, hvalue⟩ :=
      remembersFrom_after host actions _ entry hentry
    have hpath : found'.path = found.path := congrArg CacheKey.path hkey
    have hmodified : found'.file.modified = found.file.modified := congrArg CacheKey.modified hkey
    rw [hpath] at hfile
    refine ⟨before, rest, found'.file, heq, hfile, ?_⟩
    rw [← hvalue]
    refine Config.valueOf_eq_of_keyOf_eq ?_ rfl
    rw [hkey]
    simp only [Config.Request.keyOf, hmodified]
  | @stored found' value hfound' _ hvalue =>
    cases hfound.symm.trans hfound'
    cases hloaded
    exact ⟨actions, [], found.file, (List.append_nil _).symm, Config.file?_of_locate hfound,
      hvalue⟩

/-! ### Confinement -/

/-- Behind a run, loading what a request asks for stays in the directory of the settings. -/
structure Confines (s : Session) (actions : List Action) (r : Config.Request) (directory : Path) :
    Prop where
  /-- A value is given only for a file in the directory, or below it, and comes from that file. -/
  value : ∀ loaded, (Task.load r (s.after actions)).1 = .ok loaded →
    directory.names <+: (r.pathIn directory).names ∧
    (∃ file, (s.after actions).host.files.file? (r.pathIn directory) = some file) ∧
    s.Had actions r (r.pathIn directory) loaded.value
  refused_iff :
    (Task.load r (s.after actions)).1 = .error (.outside (r.pathIn directory) directory) ↔
      ¬ directory.names <+: (r.pathIn directory).names
  /-- No other path is turned down for its place, and for no other directory. -/
  refusal : ∀ path top, (Task.load r (s.after actions)).1 = .error (.outside path top) →
    path = r.pathIn directory ∧ top = directory
  /-- A directory whose name only starts with the name of the right one is another one. -/
  sibling : ∀ (above : Path) (name more : Text) (below : List Text),
    directory = above.child name → more ≠ [] →
    (r.pathIn directory).names = above.names ++ (name ++ more) :: below →
      (Task.load r (s.after actions)).1 = .error (.outside (r.pathIn directory) directory)
  /-- A remembered value is given only if it is remembered for the path of the request. -/
  remembered : ∀ loaded key entry, (Task.load r (s.after actions)).1 = .ok loaded →
    (s.after actions).cache.find? key = some entry → entry.serial = loaded.serial →
      key.path = r.pathIn directory

end Session

open Session

theorem not_isPrefix_sibling {above below : List Text} {name more : Text} (hmore : more ≠ []) :
    ¬ above ++ [name] <+: above ++ (name ++ more) :: below := by
  rw [List.prefix_append_right_inj, List.cons_prefix_cons]
  rintro ⟨hname, -⟩
  exact hmore (List.self_eq_append_right.1 hname)

variable {host : Config.Host} {actions : List Action} {r : Config.Request} {directory : Path}

/-- Behind every run, a request for a file without the character with the number zero in its name
stays in the directory of the settings. -/
theorem load_confined
    (hkeeps : ((start host).after actions).host.KeepsSettingsIn r.base directory)
    (hnul : directory.hasNul = false) (hname : r.file.hasNul = false) :
    (start host).Confines actions r directory := by
  have hrefused (path top : Path) :
      (Task.load r ((start host).after actions)).1 = .error (.outside path top) ↔
        path = r.pathIn directory ∧ top = directory ∧ ¬ directory.names <+: path.names := by
    rw [fst_load, Config.Request.load_error_outside_iff]
    exact Config.Request.locate_eq_outside_iff hkeeps hnul hname
  have hfound {loaded : Loaded}
      (hloaded : (Task.load r ((start host).after actions)).1 = .ok loaded) :
      ∃ found, r.locate ((start host).after actions).host = .ok found ∧
        found.path = r.pathIn directory ∧ directory.names <+: found.path.names ∧
        ((start host).after actions).host.files.file? found.path = some found.file := by
    cases hlocate : r.locate ((start host).after actions).host with
    | ok found =>
      exact ⟨found, rfl, (Config.Request.locate_eq_ok_iff hkeeps hnul hname).1 hlocate⟩
    | error e =>
      rw [fst_load, Config.Request.load, hlocate] at hloaded
      cases hloaded
  have hsibling (above : Path) (name more : Text) (below : List Text)
      (hdirectory : directory = above.child name) (hmore : more ≠ [])
      (hpath : (r.pathIn directory).names = above.names ++ (name ++ more) :: below) :
      ¬ directory.names <+: (r.pathIn directory).names := by
    have hnames : directory.names = above.names ++ [name] := congrArg Path.names hdirectory
    rw [hpath, hnames]
    exact not_isPrefix_sibling hmore
  constructor
  · intro loaded hloaded
    obtain ⟨found, hlocate, hpath, hwithin, hfile⟩ := hfound hloaded
    rw [← hpath]
    exact ⟨hwithin, ⟨found.file, hfile⟩, had_of_load hlocate hloaded⟩
  · rw [hrefused]
    exact ⟨fun h => h.2.2, fun h => ⟨rfl, rfl, h⟩⟩
  · intro path top houtside
    obtain ⟨hpath, htop, -⟩ := (hrefused path top).1 houtside
    exact ⟨hpath, htop⟩
  · intro above name more below hdirectory hmore hpath
    exact (hrefused _ _).2 ⟨rfl, rfl, hsibling above name more below hdirectory hmore hpath⟩
  · intro loaded key entry hloaded hentry hserial
    obtain ⟨found, hlocate, hpath, -, -⟩ := hfound hloaded
    rw [fst_load] at hloaded
    have hkey := (numbers_after host actions).key_eq_of_load hlocate hloaded hentry hserial
    rw [hkey, ← hpath]
    rfl

/-- A file in a directory with a longer name is written and loaded, and then asked for from the
directory with the shorter name. -/
theorem load_confined_sibling :
    ∃ (host : Config.Host) (path : Path) (r other : Config.Request),
      path = (Path.root.child "data-old").child "a.json" ∧ r.file = "../data-old/./a".toList ∧
      (start host).Confines [.write path ⟨[0x31], 1⟩, .load other] r (Path.root.child "data") ∧
      (Task.load r ((start host).after [.write path ⟨[0x31], 1⟩, .load other])).1 =
        .error (.outside path (Path.root.child "data")) := by
  let path : Path := (Path.root.child "data-old").child "a.json"
  let other : Config.Request :=
    ⟨"a", some (Path.root.child "data-old"), .raw, "locale", false, none⟩
  let r : Config.Request :=
    ⟨"../data-old/./a", some (Path.root.child "data"), .raw, "locale", false, none⟩
  let host : Config.Host := .bare .empty
  have hwritten : ((start host).perform (.write path ⟨[0x31], 1⟩)).2 =
      (start host).mapFiles (·.write path ⟨[0x31], 1⟩) := by
    rw [perform, performBy, change, if_neg (by decide)]
  have hkeeps : ((start host).after [.write path ⟨[0x31], 1⟩, .load other]).host.KeepsSettingsIn
      r.base (Path.root.child "data") := by
    show (((start host).perform _).2.perform (.load other)).2.host.KeepsSettingsIn _ _
    rw [host_perform _ rfl, hwritten]
    exact .given (.inl rfl) (.inl rfl) rfl
  have hconfined := load_confined hkeeps (by decide) (by decide)
  have hpath : r.pathIn (Path.root.child "data") = path := by decide
  have hrefused := hconfined.sibling .root "data" "-old" ["a.json"] rfl (by decide)
    (by rw [hpath]; decide)
  rw [hpath] at hrefused
  exact ⟨host, path, r, other, rfl, rfl, hconfined, hrefused⟩

end ColorLiteral
