import ColorLiteral.Proofs.Config.Keys
import ColorLiteral.Proofs.Session.Calls

/-!
# What is remembered

All along a run, the keys in memory are those of the loads that gave a value since the last clearing,
each of them once (`memory_exact`). So a load of a file that exists is served from memory exactly when
such a load had its key. It then gives the very value that was remembered, whatever the file holds by
now. A load that gives no value leaves the session as it is.

The history of a run is the list of the calls of the loader and the clearings in it
(`Session.IsHistory`). Every state in which the loader is called lies behind some part of the
history, and so does the last state. The memory passes along the history, and each deed keeps the
invariant `IsMemoryOf`.
-/

namespace ColorLiteral

open Config (Cache CacheKey Loaded)

variable {deeds deeds' past : List Deed} {key : CacheKey} {loaded : Loaded} {c : Cache}
  {r : Config.Request} {v : Session}

/-! ### Loads that give a value -/

/-- A load gives a value. Its key holds the path of the file and the time of its last change, and of
the request the mode, the name of the encoding, whether the file may be in relaxed JSON, and the
check. -/
structure Session.Loads (v : Session) (r : Config.Request) (key : CacheKey) (loaded : Loaded) :
    Prop where
  key_eq : ∃ found, r.locate v.host = .ok found ∧
    ⟨found.path, found.file.modified, r.mode, r.encoding, r.relaxed, r.check⟩ = key
  loaded_eq : (Task.load r v).1 = .ok loaded

/-- A load gave a value under a key, and there was no clearing since. -/
def LoadedSinceClear (deeds : List Deed) (key : CacheKey) (loaded : Loaded) : Prop :=
  ∃ before r v after, deeds = before ++ .call (r, v) :: after ∧ .clear ∉ after ∧
    v.Loads r key loaded

theorem not_loadedSinceClear_nil : ¬ LoadedSinceClear [] key loaded := by
  rintro ⟨before, r, v, after, heq, -, -⟩
  exact absurd heq (by simp)

/-- A deed in a history is the last one, or it comes before the last one. -/
theorem eq_or_exists_of_concat {last deed : Deed} {before after : List Deed}
    (heq : deeds ++ [last] = before ++ deed :: after) :
    (deed = last ∧ after = []) ∨ ∃ rest, after = rest ++ [last] ∧ deeds = before ++ deed :: rest := by
  rcases List.eq_nil_or_concat after with rfl | ⟨rest, other, rfl⟩
  · obtain ⟨-, hlast⟩ := List.append_inj' heq rfl
    exact .inl ⟨(List.singleton_inj.1 hlast).symm, rfl⟩
  · have hsplit : deeds ++ [last] = (before ++ deed :: rest) ++ [other] := by simpa using heq
    obtain ⟨hdeeds, hlast⟩ := List.append_inj' hsplit rfl
    obtain rfl := List.singleton_inj.1 hlast
    exact .inr ⟨rest, List.concat_eq_append, hdeeds⟩

theorem not_loadedSinceClear_clear : ¬ LoadedSinceClear (deeds ++ [.clear]) key loaded := by
  rintro ⟨before, r, v, after, heq, hafter, -⟩
  rcases eq_or_exists_of_concat heq with ⟨hcall, -⟩ | ⟨rest, rfl, -⟩
  · cases hcall
  · exact hafter (by simp)

theorem loadedSinceClear_call_iff : LoadedSinceClear (deeds ++ [.call (r, v)]) key loaded ↔
    LoadedSinceClear deeds key loaded ∨ v.Loads r key loaded := by
  constructor
  · rintro ⟨before, r', v', after, heq, hafter, hloads⟩
    rcases eq_or_exists_of_concat heq with ⟨hcall, -⟩ | ⟨rest, rfl, hdeeds⟩
    · cases hcall
      exact .inr hloads
    · exact .inl ⟨before, r', v', rest, hdeeds, fun h => hafter (by simp [h]), hloads⟩
  · rintro (⟨before, r', v', after, rfl, hafter, hloads⟩ | hloads)
    · exact ⟨before, r', v', after ++ [.call (r, v)], by simp, by simpa using hafter, hloads⟩
    · exact ⟨deeds, r, v, [], rfl, List.not_mem_nil, hloads⟩

/-! ### The memory behind a history -/

/-- A memory holds the values of the loads since the last clearing: one entry for every key, with the
value that each of these loads gave and one of them read from its file. -/
structure IsMemoryOf (deeds : List Deed) (c : Cache) : Prop where
  nodup : c.keys.Nodup
  find?_eq : ∀ key loaded, LoadedSinceClear deeds key loaded →
    c.find? key = some ⟨loaded.value, loaded.serial⟩
  exists_stored : ∀ key ∈ c.keys, ∃ loaded, LoadedSinceClear deeds key loaded ∧ loaded.isHit = false

namespace IsMemoryOf

theorem empty : IsMemoryOf [] .empty where
  nodup := List.nodup_nil
  find?_eq _ _ h := absurd h not_loadedSinceClear_nil
  exists_stored _ h := by cases h

theorem mem_keys_iff (h : IsMemoryOf deeds c) :
    key ∈ c.keys ↔ ∃ loaded, LoadedSinceClear deeds key loaded := by
  constructor
  · intro hkey
    obtain ⟨loaded, hloaded, -⟩ := h.exists_stored key hkey
    exact ⟨loaded, hloaded⟩
  · rintro ⟨loaded, hloaded⟩
    exact Cache.mem_keys_iff.2 ⟨_, h.find?_eq key loaded hloaded⟩

theorem clear (c : Cache) : IsMemoryOf (deeds ++ [.clear]) c.clear where
  nodup := List.nodup_nil
  find?_eq _ _ h := absurd h not_loadedSinceClear_clear
  exists_stored _ h := by cases h

theorem call_of_cache_eq (h : IsMemoryOf deeds c)
    (hloads : ∀ key loaded, v.Loads r key loaded →
      c.find? key = some ⟨loaded.value, loaded.serial⟩) :
    IsMemoryOf (deeds ++ [.call (r, v)]) c where
  nodup := h.nodup
  find?_eq key loaded hloaded := by
    rcases loadedSinceClear_call_iff.1 hloaded with hbefore | hnow
    · exact h.find?_eq key loaded hbefore
    · exact hloads key loaded hnow
  exists_stored key hkey := by
    obtain ⟨loaded, hloaded, hread⟩ := h.exists_stored key hkey
    exact ⟨loaded, loadedSinceClear_call_iff.2 (.inl hloaded), hread⟩

theorem call_remember {value : Config.Value} (h : IsMemoryOf deeds c) (hnew : key ∉ c.keys)
    (hloaded : v.Loads r key loaded) (hread : loaded.isHit = false)
    (hloads : ∀ key' loaded', v.Loads r key' loaded' →
      key' = key ∧ loaded'.value = value ∧ loaded'.serial = c.stored) :
    IsMemoryOf (deeds ++ [.call (r, v)]) (c.remember key value) where
  nodup := List.nodup_cons.2 ⟨hnew, h.nodup⟩
  find?_eq key' loaded' hloaded' := by
    rcases loadedSinceClear_call_iff.1 hloaded' with hbefore | hnow
    · -- The earlier loads had other keys, since this one was not remembered.
      have hother : key' ≠ key := by
        rintro rfl
        exact hnew (h.mem_keys_iff.2 ⟨loaded', hbefore⟩)
      rw [Cache.find?_remember_of_ne c value hother]
      exact h.find?_eq key' loaded' hbefore
    · obtain ⟨rfl, hvalue, hserial⟩ := hloads key' loaded' hnow
      rw [Cache.find?_remember, hvalue, hserial]
  exists_stored key' hkey := by
    rw [Cache.keys_remember, List.mem_cons] at hkey
    rcases hkey with rfl | hkey
    · exact ⟨loaded, loadedSinceClear_call_iff.2 (.inr hloaded), hread⟩
    · obtain ⟨loaded', hloaded', hread'⟩ := h.exists_stored key' hkey
      exact ⟨loaded', loadedSinceClear_call_iff.2 (.inl hloaded'), hread'⟩

theorem call (h : IsMemoryOf deeds v.cache) (r : Config.Request) :
    IsMemoryOf (deeds ++ [.call (r, v)]) (Task.load r v).2.cache := by
  have hfst : (Task.load r v).1 = (r.load v.host v.cache).1 := Session.fst_load v r
  rw [Session.cache_load]
  generalize hresult : r.load v.host v.cache = result at hfst
  have hloading := r.loading v.host v.cache
  rw [hresult] at hloading
  cases hloading with
  | failed e =>
    refine h.call_of_cache_eq fun key loaded hloads => ?_
    cases hfst.symm.trans hloads.loaded_eq
  | @remembered found entry hfound hentry =>
    refine h.call_of_cache_eq fun key loaded hloads => ?_
    obtain ⟨⟨found', hfound', rfl⟩, hloaded⟩ := hloads
    cases hfound.symm.trans hfound'
    cases hfst.symm.trans hloaded
    exact hentry
  | @stored found value hfound hnew hvalue =>
    refine h.call_remember hnew ⟨⟨found, hfound, rfl⟩, hfst⟩ rfl fun key loaded hloads => ?_
    obtain ⟨⟨found', hfound', rfl⟩, hloaded⟩ := hloads
    cases hfound.symm.trans hfound'
    cases hfst.symm.trans hloaded
    exact ⟨rfl, rfl, rfl⟩

end IsMemoryOf

/-- Behind everything that the memory passes through, it is the memory of all of it. -/
theorem IsMemoryOf.passes {c' : Cache} (h : IsMemoryOf past c) (hpasses : Passes c deeds c') :
    IsMemoryOf (past ++ deeds) c' := by
  induction deeds generalizing past c with
  | nil =>
    obtain rfl : c' = c := hpasses
    rwa [List.append_nil]
  | cons deed deeds ih =>
    rw [← List.singleton_append, ← List.append_assoc]
    cases deed with
    | call call =>
      obtain ⟨rfl, hrest⟩ := hpasses
      exact ih (h.call call.1) hrest
    | clear => exact ih (.clear c) hpasses

/-! ### Histories -/

namespace Session

/-- The calls of the loader and the clearings in a run, in order. -/
inductive IsHistory : Session → List Action → List Deed → Prop
  | nil {s : Session} : IsHistory s [] []
  | clear {s : Session} {a : Action} {actions : List Action} {deeds : List Deed}
      (hclears : s.Clears a) (hrest : IsHistory (s.perform a).2 actions deeds) :
      IsHistory s (a :: actions) (.clear :: deeds)
  | calls {s : Session} {a : Action} {actions : List Action} {deeds : List Deed}
      {calls : List (Config.Request × Session)} (hkeeps : ¬ s.Clears a)
      (hcalls : s.IsCallList a calls) (hrest : IsHistory (s.perform a).2 actions deeds) :
      IsHistory s (a :: actions) (calls.map .call ++ deeds)

variable {s : Session} {actions : List Action}

theorem exists_isHistory (s : Session) (actions : List Action) : ∃ deeds, s.IsHistory actions deeds := by
  induction actions generalizing s with
  | nil => exact ⟨[], .nil⟩
  | cons a actions ih =>
    obtain ⟨deeds, hrest⟩ := ih (s.perform a).2
    by_cases hclears : s.Clears a
    · exact ⟨_, .clear hclears hrest⟩
    · obtain ⟨calls, hcalls⟩ := exists_isCallList hclears
      exact ⟨_, .calls hclears hcalls hrest⟩

theorem IsHistory.passes (h : s.IsHistory actions deeds) :
    Passes s.cache deeds (s.after actions).cache := by
  induction h with
  | nil => rfl
  | clear hclears _ ih =>
    rw [cache_perform_of_clears hclears] at ih
    exact ih
  | calls _ hcalls _ ih => exact passes_append.2 ⟨_, hcalls.passes, ih⟩

theorem load_of_error {s : Session} {r : Config.Request} {e : Config.ConfigError}
    (h : (Task.load r s).1 = .error e) : (Task.load r s).2 = s := by
  have hloading := r.loading s.host s.cache
  rw [Task.load_apply] at h ⊢
  generalize r.load s.host s.cache = result at h hloading
  cases hloading with
  | failed => rfl
  | remembered | stored => cases h

/-- In a session behind a history, a load is served from memory exactly if one with its key gave a
value since the last clearing, and then with that value. -/
structure Serves (deeds : List Deed) (s : Session) : Prop where
  keys_nodup : s.cache.keys.Nodup
  mem_keys_iff : ∀ key, key ∈ s.cache.keys ↔ ∃ loaded, LoadedSinceClear deeds key loaded
  /-- One of the loads with a remembered key has read the value from its file. -/
  exists_stored : ∀ key ∈ s.cache.keys,
    ∃ loaded, LoadedSinceClear deeds key loaded ∧ loaded.isHit = false
  isHit_iff : ∀ r found, r.locate s.host = .ok found →
    ((∃ loaded, (Task.load r s).1 = .ok loaded ∧ loaded.isHit = true) ↔
      ∃ loaded, LoadedSinceClear deeds
        ⟨found.path, found.file.modified, r.mode, r.encoding, r.relaxed, r.check⟩ loaded)
  /-- Neither the bytes of the file nor the checks and the readers make a difference. -/
  load_eq : ∀ (r : Config.Request) (h : Config.Host) found loaded, r.locate h = .ok found →
    LoadedSinceClear deeds
      ⟨found.path, found.file.modified, r.mode, r.encoding, r.relaxed, r.check⟩ loaded →
      r.load h s.cache = (.ok ⟨loaded.value, loaded.serial, true, found.path.name⟩, s.cache)
  load_error : ∀ r e, (Task.load r s).1 = .error e → (Task.load r s).2 = s

end Session

theorem IsMemoryOf.serves {s : Session} (h : IsMemoryOf deeds s.cache) : s.Serves deeds where
  keys_nodup := h.nodup
  mem_keys_iff key := h.mem_keys_iff
  exists_stored := h.exists_stored
  isHit_iff r found hfound := by
    rw [← h.mem_keys_iff]
    constructor
    · rintro ⟨loaded, hloaded, hhit⟩
      have hloading := r.loading s.host s.cache
      rw [Session.fst_load] at hloaded
      generalize r.load s.host s.cache = result at hloaded hloading
      cases hloading with
      | failed => cases hloaded
      | remembered hfound' hentry =>
        cases hfound.symm.trans hfound'
        exact Cache.mem_keys_iff.2 ⟨_, hentry⟩
      | stored =>
        cases hloaded
        cases hhit
    · intro hkey
      obtain ⟨entry, hentry⟩ := Cache.mem_keys_iff.1 hkey
      refine ⟨⟨entry.value, entry.serial, true, found.path.name⟩, ?_, rfl⟩
      rw [Session.fst_load, Config.Request.load_of_find? hfound hentry]
  load_eq r host found loaded hfound hloaded :=
    Config.Request.load_of_find? hfound (h.find?_eq _ loaded hloaded)
  load_error _ _ := Session.load_of_error

/-- Every run has a history of calls of the loader and clearings. In the last session of the run, and
in every session in which the loader is called, exactly the keys of the loads that gave a value since
the last clearing are remembered, each once, and loads are served from memory accordingly. -/
theorem Session.memory_exact (host : Config.Host) (actions : List Action) :
    (∃ deeds, (start host).IsHistory actions deeds) ∧
    ∀ deeds, (start host).IsHistory actions deeds →
      ((start host).after actions).Serves deeds ∧
      ∀ before r v after, deeds = before ++ .call (r, v) :: after → v.Serves before := by
  refine ⟨exists_isHistory _ _, fun deeds hdeeds => ?_⟩
  have hpasses := hdeeds.passes
  refine ⟨(IsMemoryOf.empty.passes hpasses).serves, ?_⟩
  rintro before r v after rfl
  obtain ⟨c, hbefore, rfl, -⟩ := passes_append.1 hpasses
  exact (IsMemoryOf.empty.passes hbefore).serves

/-- A file gets an old time back, with other bytes, and its old value is served. -/
example :
    let path := (Path.root.child "data").child "a.json"
    let r : Config.Request := ⟨"a", some (Path.root.child "data"), .raw, "locale", false, none⟩
    let s := (Session.start (Config.Host.bare .empty)).after
      [.write path ⟨[0x31], 1⟩, .load r, .write path ⟨[0x32], 2⟩, .load r, .write path ⟨[0x33], 1⟩]
    ((Task.load r s).1.toOption.map fun loaded => (loaded.serial, loaded.isHit)) =
      some (0, true) := by
  decide +kernel

end ColorLiteral
