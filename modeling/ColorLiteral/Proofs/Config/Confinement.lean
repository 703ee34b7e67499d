import ColorLiteral.Proofs.Config.Home
import ColorLiteral.Proofs.Config.Memory

/-!
# Where the settings are kept

`Host.KeepsSettingsIn` says which directory holds the settings: the one of the first variable that
is set and not empty, with a home directory in the place of a tilde, else the given one, else the
nearest one seen from the library. The loader goes by
that directory (`Host.dataDirectory_eq_ok_iff`). A request denotes a path there, and what it finds
is the file at this path, provided that the names of the path start with those of the directory
(`Request.locate_eq_ok_iff`). If they do not, the request is turned down
(`Request.locate_eq_outside_iff`), and a load turns it down for no other reason
(`Request.load_error_outside_iff`).
-/

namespace ColorLiteral

/-- A variable is not set, or it is empty. -/
def Environment.IsVoid (e : Environment) (name : Text) : Prop := e name = none ∨ e name = some []

namespace Environment

variable {e : Environment} {name value : Text}

theorem nonEmpty?_eq_some_iff :
    e.nonEmpty? name = some value ↔ e name = some value ∧ value ≠ [] := by
  rw [nonEmpty?, Option.filter_eq_some_iff]
  simp

theorem nonEmpty?_eq_none_iff : e.nonEmpty? name = none ↔ e.IsVoid name := by
  rw [nonEmpty?, IsVoid]
  cases e name <;> simp

end Environment

/-- Searching downwards finds the greatest number with a property. -/
theorem find?_reverse_range_eq_some_iff {α : Type} (f : Nat → α) (p : α → Bool) (k : Nat) (a : α) :
    ((List.range k).reverse.map f).find? p = some a ↔
      ∃ n < k, f n = a ∧ p (f n) = true ∧ ∀ m, n < m → m < k → p (f m) = false := by
  induction k with
  | zero => simp
  | succ k ih =>
    rw [List.range_succ, List.reverse_append, List.reverse_singleton, List.singleton_append,
      List.map_cons, List.find?_cons]
    cases hk : p (f k) with
    | true =>
      constructor
      · rintro ⟨⟩
        exact ⟨k, by omega, rfl, hk, fun m _ _ => by omega⟩
      · rintro ⟨n, hn, rfl, -, hlast⟩
        have hkn : n = k := by
          by_contra hne
          exact absurd (hlast k (by omega) (by omega)) (by simp [hk])
        rw [hkn]
    | false =>
      simp only
      rw [ih]
      constructor
      · rintro ⟨n, hn, ha, hp, hlast⟩
        refine ⟨n, by omega, ha, hp, fun m hnm hm => ?_⟩
        by_cases hmk : m = k
        · rw [hmk, hk]
        · exact hlast m hnm (by omega)
      · rintro ⟨n, hn, ha, hp, hlast⟩
        have hnk : n ≠ k := by
          rintro rfl
          simp [hk] at hp
        exact ⟨n, by omega, ha, hp, fun m hnm hm => hlast m hnm (by omega)⟩

namespace Config

open Environment

/-! ### The directory of the settings -/

namespace Host

/-- The directory that holds the settings. -/
inductive KeepsSettingsIn (h : Host) (base : Option Path) : Path → Prop
  | named {value place : Text} (hvalue : h.environment Environment.dataDirectory = some value)
      (hne : value ≠ []) (hplace : h.ExpandsTo value place) :
      KeepsSettingsIn h base (h.workingDirectory.resolve place)
  | shared {value place : Text} (hvoid : h.environment.IsVoid Environment.dataDirectory)
      (hvalue : h.environment sharedDataDirectory = some value) (hne : value ≠ [])
      (hplace : h.ExpandsTo value place) :
      KeepsSettingsIn h base (h.workingDirectory.resolve place)
  | given {directory : Path} (hvoid : h.environment.IsVoid Environment.dataDirectory)
      (hshared : h.environment.IsVoid sharedDataDirectory) (hbase : base = some directory) :
      KeepsSettingsIn h base directory
  | nearest {n : Nat} (hvoid : h.environment.IsVoid Environment.dataDirectory)
      (hshared : h.environment.IsVoid sharedDataDirectory) (hbase : base = none)
      (hhome : h.home.hasNul = false) (hn : n ≤ h.home.names.length)
      (hexists : h.files.isDirectory ⟨h.home.names.take n ++ ["data".toList]⟩ = true)
      (hnearest : ∀ m, n < m → m ≤ h.home.names.length →
        h.files.isDirectory ⟨h.home.names.take m ++ ["data".toList]⟩ = false) :
      KeepsSettingsIn h base ⟨h.home.names.take n ++ ["data".toList]⟩

variable {h : Host} {base : Option Path} {start directory : Path}

theorem nearestData_eq_ok_iff : h.nearestData start = .ok directory ↔
    start.hasNul = false ∧ ∃ n ≤ start.names.length,
      (⟨start.names.take n ++ ["data".toList]⟩ : Path) = directory ∧
      h.files.isDirectory ⟨start.names.take n ++ ["data".toList]⟩ = true ∧
      ∀ m, n < m → m ≤ start.names.length →
        h.files.isDirectory ⟨start.names.take m ++ ["data".toList]⟩ = false := by
  have hcandidates : candidates start = (List.range (start.names.length + 1)).reverse.map fun n =>
      (⟨start.names.take n ++ ["data".toList]⟩ : Path) := by
    rw [candidates, Path.ancestors, List.map_map]
    rfl
  have hfind := find?_reverse_range_eq_some_iff
    (fun n => (⟨start.names.take n ++ ["data".toList]⟩ : Path)) h.files.isDirectory
    (start.names.length + 1) directory
  rw [← hcandidates] at hfind
  simp only [Nat.lt_succ_iff] at hfind
  rw [← hfind, nearestData]
  cases start.hasNul with
  | true => simp
  | false => cases (candidates start).find? h.files.isDirectory <;> simp

theorem dataDirectory_of_named {value : Text}
    (hvalue : h.environment Environment.dataDirectory = some value) (hne : value ≠ []) :
    h.dataDirectory base = .ok (h.workingDirectory.resolve (h.expandUser value)) := by
  rw [dataDirectory, namedData?, nonEmpty?_eq_some_iff.2 ⟨hvalue, hne⟩]
  rfl

theorem dataDirectory_of_shared {value : Text}
    (hvoid : h.environment.IsVoid Environment.dataDirectory)
    (hvalue : h.environment sharedDataDirectory = some value) (hne : value ≠ []) :
    h.dataDirectory base = .ok (h.workingDirectory.resolve (h.expandUser value)) := by
  rw [dataDirectory, namedData?, nonEmpty?_eq_none_iff.2 hvoid,
    nonEmpty?_eq_some_iff.2 ⟨hvalue, hne⟩]
  rfl

theorem dataDirectory_of_void (hvoid : h.environment.IsVoid Environment.dataDirectory)
    (hshared : h.environment.IsVoid sharedDataDirectory) :
    h.dataDirectory base = match base with
      | some given => .ok given
      | none => h.nearestData h.home := by
  rw [dataDirectory, namedData?, nonEmpty?_eq_none_iff.2 hvoid, nonEmpty?_eq_none_iff.2 hshared]
  cases base <;> rfl

/-- The loader goes by the directory that holds the settings. -/
theorem dataDirectory_eq_ok_iff :
    h.dataDirectory base = .ok directory ↔ h.KeepsSettingsIn base directory := by
  constructor
  · intro hdirectory
    cases hvalue : h.environment.nonEmpty? Environment.dataDirectory with
    | some value =>
      obtain ⟨hset, hne⟩ := nonEmpty?_eq_some_iff.1 hvalue
      rw [dataDirectory_of_named hset hne] at hdirectory
      cases hdirectory
      exact .named hset hne (expandUser_eq_iff.1 rfl)
    | none =>
      have hvoid := nonEmpty?_eq_none_iff.1 hvalue
      cases hother : h.environment.nonEmpty? sharedDataDirectory with
      | some value =>
        obtain ⟨hset, hne⟩ := nonEmpty?_eq_some_iff.1 hother
        rw [dataDirectory_of_shared hvoid hset hne] at hdirectory
        cases hdirectory
        exact .shared hvoid hset hne (expandUser_eq_iff.1 rfl)
      | none =>
        have hshared := nonEmpty?_eq_none_iff.1 hother
        rw [dataDirectory_of_void hvoid hshared] at hdirectory
        cases base with
        | some given =>
          cases hdirectory
          exact .given hvoid hshared rfl
        | none =>
          obtain ⟨hhome, n, hn, rfl, hexists, hnearest⟩ := nearestData_eq_ok_iff.1 hdirectory
          exact .nearest hvoid hshared rfl hhome hn hexists hnearest
  · intro hkeeps
    cases hkeeps with
    | named hset hne hplace =>
      rw [← expandUser_eq_iff.2 hplace]
      exact dataDirectory_of_named hset hne
    | shared hvoid hset hne hplace =>
      rw [← expandUser_eq_iff.2 hplace]
      exact dataDirectory_of_shared hvoid hset hne
    | given hvoid hshared hbase => rw [dataDirectory_of_void hvoid hshared, hbase]
    | nearest hvoid hshared hbase hhome hn hexists hnearest =>
      rw [dataDirectory_of_void hvoid hshared, hbase]
      exact nearestData_eq_ok_iff.2 ⟨hhome, _, hn, rfl, hexists, hnearest⟩

end Host

/-! ### The file of a request -/

variable {h : Host} {r : Request} {directory path : Path} {found : Located} {c : Cache}

namespace Request

theorem hasNul_fileName : r.fileName.hasNul = r.file.hasNul := by
  have happend : (r.file ++ fileEnding).hasNul = r.file.hasNul := by
    have hending : fileEnding.hasNul = false := by decide
    rw [Text.hasNul] at hending ⊢
    rw [Text.hasNul, List.contains_append, hending, Bool.or_false]
  rw [fileName]
  split
  · rfl
  · exact happend

/-- The path that a request denotes in a directory. -/
def pathIn (r : Request) (directory : Path) : Path := directory.resolve r.fileName

/-- What a request finds, once it is known where the settings are kept. -/
theorem locate_eq (hkeeps : h.KeepsSettingsIn r.base directory) (hnul : directory.hasNul = false)
    (hname : r.file.hasNul = false) : r.locate h =
      if (r.pathIn directory).isWithin directory then
        match h.files.file? (r.pathIn directory) with
        | some file => .ok ⟨r.pathIn directory, file⟩
        | none => .error (.missing (r.pathIn directory))
      else .error (.outside (r.pathIn directory) directory) := by
  have hdirectory := Host.dataDirectory_eq_ok_iff.2 hkeeps
  have hnul' : ¬ (directory.hasNul || r.fileName.hasNul) = true := by
    simp [hnul, hasNul_fileName, hname]
  rw [locate, hdirectory]
  show (if (directory.hasNul || r.fileName.hasNul) = true then _ else _) = _
  rw [if_neg hnul']
  rfl

theorem isWithin_iff : path.isWithin directory = true ↔ directory.names <+: path.names :=
  List.isPrefixOf_iff_prefix

theorem locate_eq_ok_iff (hkeeps : h.KeepsSettingsIn r.base directory)
    (hnul : directory.hasNul = false) (hname : r.file.hasNul = false) : r.locate h = .ok found ↔
      found.path = r.pathIn directory ∧ directory.names <+: found.path.names ∧
        h.files.file? found.path = some found.file := by
  rw [locate_eq hkeeps hnul hname]
  constructor
  · intro hfound
    split at hfound
    · next hwithin =>
      split at hfound
      · next file hfile =>
        cases hfound
        exact ⟨rfl, isWithin_iff.1 hwithin, hfile⟩
      · cases hfound
    · cases hfound
  · rintro ⟨hpath, hwithin, hfile⟩
    rw [← hpath, if_pos (isWithin_iff.2 hwithin), hfile]

theorem locate_eq_outside_iff (hkeeps : h.KeepsSettingsIn r.base directory)
    (hnul : directory.hasNul = false) (hname : r.file.hasNul = false) {top : Path} :
    r.locate h = .error (.outside path top) ↔
      path = r.pathIn directory ∧ top = directory ∧ ¬ directory.names <+: path.names := by
  rw [locate_eq hkeeps hnul hname]
  constructor
  · intro houtside
    split at houtside
    · split at houtside <;> cases houtside
    · next hwithin =>
      cases houtside
      exact ⟨rfl, rfl, fun hprefix => hwithin (isWithin_iff.2 hprefix)⟩
  · rintro ⟨rfl, rfl, hwithin⟩
    rw [if_neg fun h => hwithin (isWithin_iff.1 h)]

/-- A file that was found is never turned down for its place. -/
theorem valueOf_ne_outside {top : Path} : r.valueOf h found ≠ .error (.outside path top) := by
  intro houtside
  rcases Outcome.bind_eq_error_iff.1 houtside with hread | ⟨value, -, htreat⟩
  · have hstrict (place : Path) (source : Text) (error : JsonError) :
        strictError place source error ≠ .outside path top := by
      unfold strictError
      split <;> exact ConfigError.noConfusion
    have hrelaxed (place : Path) (fault : RelaxedFault) :
        relaxedError place fault ≠ .outside path top := by
      unfold relaxedError
      split <;> exact ConfigError.noConfusion
    have hmap {ε : Type} {f : ε → ConfigError} (hf : ∀ e, f e ≠ .outside path top)
        (x : Except ε Value) : x.mapError f ≠ .error (.outside path top) := by
      cases x with
      | ok => intro heq; cases heq
      | error e => exact fun heq => hf e (Except.error.inj heq)
    unfold Host.read Host.readText at hread
    split at hread
    · cases hread
    split at hread
    · cases hread
    · cases hread
    split at hread
    · cases hread
    split at hread
    · cases hread
    split at hread
    · exact hmap (hrelaxed _) _ hread
    · exact hmap (hstrict _ _) _ hread
  · unfold Host.treat at htreat
    repeat' split at htreat
    all_goals cases htreat

/-! ### Loads -/

theorem load_error_outside_iff {top : Path} : (r.load h c).1 = .error (.outside path top) ↔
    r.locate h = .error (.outside path top) := by
  unfold Request.load
  cases hlocate : r.locate h with
  | error e => simp
  | ok found =>
    cases hentry : c.find? (r.keyOf found) with
    | some entry => simp [hentry]
    | none =>
      cases hvalue : r.valueOf h found with
      | ok value => simp [hentry, hvalue]
      | error e =>
        have hne : e ≠ .outside path top := by
          rintro rfl
          exact valueOf_ne_outside hvalue
        simp [hentry, hvalue, hne]

end Request

/-! ### Serial numbers -/

/-- No two remembered values have the same serial number, and the number of the next one is new. -/
structure Cache.Numbers (c : Cache) : Prop where
  key_eq : ∀ key key' entry entry', c.find? key = some entry → c.find? key' = some entry' →
    entry.serial = entry'.serial → key = key'
  lt_stored : ∀ key entry, c.find? key = some entry → entry.serial < c.stored

namespace Cache.Numbers

theorem of_entries_eq_nil (hempty : c.entries = []) : c.Numbers := by
  have hnone (key : CacheKey) (entry : CacheEntry) : c.find? key ≠ some entry := by
    rw [find?, hempty]
    intro hentry
    cases hentry
  constructor
  · intro key key' entry entry' hentry
    exact absurd hentry (hnone key entry)
  · intro key entry hentry
    exact absurd hentry (hnone key entry)

theorem remember (hc : c.Numbers) (key : CacheKey) (value : Value) :
    (c.remember key value).Numbers := by
  have hcases (other : CacheKey) (entry : CacheEntry)
      (hentry : (c.remember key value).find? other = some entry) :
      (other = key ∧ entry.serial = c.stored) ∨ c.find? other = some entry := by
    by_cases hother : other = key
    · rw [hother, find?_remember] at hentry
      cases hentry
      exact .inl ⟨hother, rfl⟩
    · rw [find?_remember_of_ne c value hother] at hentry
      exact .inr hentry
  constructor
  · intro first second entry entry' hentry hentry' hserial
    rcases hcases first entry hentry with ⟨hfirst, hnew⟩ | hfirst <;>
      rcases hcases second entry' hentry' with ⟨hsecond, hnew'⟩ | hsecond
    · rw [hfirst, hsecond]
    · have := hc.lt_stored second entry' hsecond
      omega
    · have := hc.lt_stored first entry hfirst
      omega
    · exact hc.key_eq first second entry entry' hfirst hsecond hserial
  · intro other entry hentry
    show entry.serial < c.stored + 1
    rcases hcases other entry hentry with ⟨-, hnew⟩ | hold
    · omega
    · have := hc.lt_stored other entry hold
      omega

theorem load (hc : c.Numbers) (r : Request) (h : Host) : (r.load h c).2.Numbers := by
  have hloading := r.loading h c
  generalize r.load h c = result at hloading
  cases hloading with
  | failed | remembered => exact hc
  | stored => exact hc.remember _ _

end Cache.Numbers

/-- A value that is remembered with the number of a loaded one is remembered under the key of the
load. -/
theorem Cache.Numbers.key_eq_of_load {loaded : Loaded} {key : CacheKey} {entry : CacheEntry}
    (hc : c.Numbers) (hfound : r.locate h = .ok found) (hloaded : (r.load h c).1 = .ok loaded)
    (hentry : c.find? key = some entry) (hserial : entry.serial = loaded.serial) :
    key = r.keyOf found := by
  have hloading := r.loading h c
  generalize r.load h c = result at hloading hloaded
  cases hloading with
  | failed => cases hloaded
  | @remembered found' entry' hfound' hentry' =>
    cases hfound.symm.trans hfound'
    cases hloaded
    exact hc.key_eq _ _ _ _ hentry hentry' hserial
  | stored =>
    cases hloaded
    have hlt := hc.lt_stored key entry hentry
    have heq : entry.serial = c.stored := hserial
    omega

end Config

end ColorLiteral
