import ColorLiteral.Config.Loader

/-!
# The keys that are remembered

What a load does to the memory, without the order of its checks: it leaves the memory as it is, with
an error or with the value that is remembered under its key, or it remembers a new value under a key
that was not there (`Request.loading`). So no key is remembered twice.
-/

namespace ColorLiteral.Config

namespace Cache

variable {c : Cache} {key : CacheKey}

/-- The keys under which values are remembered. -/
def keys (c : Cache) : List CacheKey := c.entries.map Prod.fst

@[simp] theorem keys_remember (c : Cache) (key : CacheKey) (value : Value) :
    (c.remember key value).keys = key :: c.keys := rfl

theorem find?_eq_none_iff : c.find? key = none ↔ key ∉ c.keys := by
  rw [find?, List.lookup_eq_none_iff, keys]
  constructor
  · intro h hkey
    obtain ⟨entry, hentry, rfl⟩ := List.mem_map.1 hkey
    simpa using h entry hentry
  · intro h entry hentry
    rw [bne_iff_ne]
    rintro rfl
    exact h (List.mem_map_of_mem hentry)

theorem mem_keys_iff : key ∈ c.keys ↔ ∃ entry, c.find? key = some entry := by
  constructor
  · intro hkey
    refine Option.isSome_iff_exists.1 (Option.isSome_iff_ne_none.2 fun hnone => ?_)
    exact find?_eq_none_iff.1 hnone hkey
  · rintro ⟨entry, hentry⟩
    obtain ⟨before, after, heq, -⟩ := List.lookup_eq_some_iff.1 hentry
    simp [keys, heq]

end Cache

/-- What a load gives, and the memory that it leaves. -/
inductive Request.Loading (r : Request) (h : Host) (c : Cache) :
    Except ConfigError Loaded × Cache → Prop
  | failed (e : ConfigError) : Loading r h c (.error e, c)
  | remembered {found : Located} {entry : CacheEntry} (hfound : r.locate h = .ok found)
      (hentry : c.find? (r.keyOf found) = some entry) :
      Loading r h c (.ok ⟨entry.value, entry.serial, true, found.path.name⟩, c)
  | stored {found : Located} {value : Value} (hfound : r.locate h = .ok found)
      (hnew : r.keyOf found ∉ c.keys) (hvalue : r.valueOf h found = .ok value) :
      Loading r h c
        (.ok ⟨value, c.stored, false, found.path.name⟩, c.remember (r.keyOf found) value)

theorem Request.loading (r : Request) (h : Host) (c : Cache) : r.Loading h c (r.load h c) := by
  unfold Request.load
  split
  · exact .failed _
  next found hfound =>
  split
  · next entry hentry => exact .remembered hfound hentry
  next hnone =>
  split
  · exact .failed _
  · next value hvalue => exact .stored hfound (Cache.find?_eq_none_iff.1 hnone) hvalue

variable {r : Request} {h : Host} {c : Cache} {found : Located}

/-- What is remembered under the key of a load is given as it is. The file is not read, so that its
bytes do not matter, nor do the checks and the readers. -/
theorem Request.load_of_find? {entry : CacheEntry} (hfound : r.locate h = .ok found)
    (hentry : c.find? (r.keyOf found) = some entry) :
    r.load h c = (.ok ⟨entry.value, entry.serial, true, found.path.name⟩, c) := by
  rw [Request.load.eq_def, hfound]
  simp only [hentry]

/-- Where nothing is remembered under the key of a load, it gives what the request makes of the
file, and remembers it. -/
theorem Request.load_of_find?_eq_none (hfound : r.locate h = .ok found)
    (hnone : c.find? (r.keyOf found) = none) :
    r.load h c =
      match r.valueOf h found with
      | .error e => (.error e, c)
      | .ok value =>
        (.ok ⟨value, c.stored, false, found.path.name⟩, c.remember (r.keyOf found) value) := by
  rw [Request.load.eq_def, hfound]
  cases hvalue : r.valueOf h found <;> simp only [hnone, hvalue]

end ColorLiteral.Config
