import ColorLiteral.Proofs.Outcome
import ColorLiteral.Proofs.Text.Order
import ColorLiteral.Surface.Table

/-!
# Which objects are surface tables

The check of the surface table lets an object pass exactly if it has at least one entry of a surface
and each of them is an object with the two texts of a surface (`check_eq_ok_iff`); it turns every
other object down for its shape (`exists_check_eq_error`).

What passes is safe to look up: every entry is found under its name with the two texts that it has
(`exists_surface?_of_mem`).
-/

namespace ColorLiteral.SurfaceTable

open Config (Members Value)

/-- A value is an object with the two texts of a surface. -/
inductive Describes : Value → Surface → Prop
  | mk {entry : Members} {template fallback : Text}
      (htemplate : Json.member? "template" entry = some (.string template))
      (hfallback : Json.member? "fallback" entry = some (.string fallback)) :
      Describes (.object entry) ⟨template, fallback⟩

/-- An object has some entries under its surfaces, each by its name. -/
def HasEntries (settings entries : Members) : Prop :=
  Json.member? "surfaces" settings = some (.object entries)

/-- An object has at least one surface, and each of its surfaces is described. -/
def IsTable (settings : Members) : Prop :=
  ∃ entries, HasEntries settings entries ∧ entries ≠ [] ∧
    ∀ entry ∈ entries, ∃ surface, Describes entry.2 surface

/-- An entry and a surface have the same name, and the entry describes the surface. -/
def IsReadAs (entry : Text × Value) (surface : Text × Surface) : Prop :=
  surface.1 = entry.1 ∧ Describes entry.2 surface.2

variable {settings entries : Members} {table : SurfaceTable}

/-! ### Reading -/

theorem textUnder_eq_ok_iff {surface key t : Text} {entry : Members} :
    textUnder surface key entry = .ok t ↔ Json.member? key entry = some (.string t) := by
  unfold textUnder
  split
  · next u hu => simp [hu]
  · next hnone =>
    refine ⟨nofun, fun h => ?_⟩
    exact absurd h (hnone t)

theorem readSurface_eq_ok_iff {entry : Text × Value} {surface : Text × Surface} :
    readSurface entry = .ok surface ↔ IsReadAs entry surface := by
  constructor
  · intro h
    unfold readSurface at h
    split at h
    · obtain ⟨template, htemplate, h⟩ := Outcome.bind_eq_ok_iff.1 h
      obtain ⟨fallback, hfallback, h⟩ := Outcome.bind_eq_ok_iff.1 h
      cases h
      exact ⟨rfl, .mk (textUnder_eq_ok_iff.1 htemplate) (textUnder_eq_ok_iff.1 hfallback)⟩
    · cases h
  · obtain ⟨name, value⟩ := entry
    obtain ⟨name', surface⟩ := surface
    rintro ⟨rfl, hdescribes⟩
    cases hdescribes with
    | mk htemplate hfallback =>
      rw [readSurface, textUnder_eq_ok_iff.2 htemplate]
      show textUnder _ _ _ >>= _ = _
      rw [textUnder_eq_ok_iff.2 hfallback]
      rfl

theorem ofMembers_eq_ok_iff : ofMembers settings = .ok table ↔
    table.preferred = readPreferred settings ∧ ∃ entries, HasEntries settings entries ∧
      entries ≠ [] ∧ entries.mapM readSurface = .ok table.surfaces := by
  constructor
  · intro h
    unfold ofMembers at h
    split at h
    · next entry entries hentries =>
      obtain ⟨surfaces, hsurfaces, h⟩ := Outcome.bind_eq_ok_iff.1 h
      cases h
      exact ⟨rfl, _, hentries, List.cons_ne_nil _ _, hsurfaces⟩
    · cases h
  · obtain ⟨preferred, surfaces⟩ := table
    rintro ⟨rfl, entries, hentries, hne, hsurfaces⟩
    obtain ⟨entry, entries, rfl⟩ := List.exists_cons_of_ne_nil hne
    unfold ofMembers
    rw [hentries]
    exact Outcome.bind_eq_ok_iff.2 ⟨surfaces, hsurfaces, rfl⟩

/-- An object is a surface table exactly if one is read from it. -/
theorem isTable_iff : IsTable settings ↔ ∃ table, ofMembers settings = .ok table := by
  have hdescribes : ∀ entry : Text × Value,
      (∃ surface, readSurface entry = .ok surface) ↔ ∃ surface, Describes entry.2 surface := by
    intro entry
    constructor
    · rintro ⟨surface, hsurface⟩
      exact ⟨_, (readSurface_eq_ok_iff.1 hsurface).2⟩
    · rintro ⟨surface, hsurface⟩
      exact ⟨(entry.1, surface), readSurface_eq_ok_iff.2 ⟨rfl, hsurface⟩⟩
  simp only [IsTable, ← hdescribes, ← Outcome.exists_mapM_eq_ok_iff]
  constructor
  · rintro ⟨entries, hentries, hne, surfaces, hsurfaces⟩
    exact ⟨⟨_, surfaces⟩, ofMembers_eq_ok_iff.2 ⟨rfl, entries, hentries, hne, hsurfaces⟩⟩
  · rintro ⟨table, htable⟩
    obtain ⟨-, entries, hentries, hne, hsurfaces⟩ := ofMembers_eq_ok_iff.1 htable
    exact ⟨entries, hentries, hne, _, hsurfaces⟩

/-- The check lets the surface tables pass, unchanged, and nothing else. -/
theorem check_eq_ok_iff {settings' : Members} :
    check settings = .ok settings' ↔ IsTable settings ∧ settings' = settings := by
  rw [isTable_iff, check]
  split
  · next table htable => simp [htable, eq_comm]
  · next fault hfault => simp [hfault]

/-- The check turns down what is no surface table for its shape, whatever values are in it. -/
theorem exists_check_eq_error (h : ¬ IsTable settings) :
    ∃ fault, ofMembers settings = .error fault ∧
      check settings = .error (.wrongShape fault.message) := by
  rw [isTable_iff] at h
  cases hread : ofMembers settings with
  | ok table => exact absurd ⟨table, hread⟩ h
  | error fault => exact ⟨fault, rfl, by rw [check, hread]⟩

example : check [("surfaces".toList, .object [("a".toList, .null)])] =
    .error (.wrongShape "emitters.json: surface 'a' must be an object".toList) := rfl

/-! ### Looking up -/

/-- The surfaces of a table are those of some entries, one by one. -/
def ReadsFrom (table : SurfaceTable) (entries : Members) : Prop :=
  List.Forall₂ IsReadAs entries table.surfaces

/-- A table that is read from an object is read from its entries. -/
theorem readsFrom_of_ofMembers (htable : ofMembers settings = .ok table)
    (hentries : HasEntries settings entries) : table.ReadsFrom entries := by
  obtain ⟨-, entries', hentries', -, hsurfaces⟩ := ofMembers_eq_ok_iff.1 htable
  obtain rfl : entries = entries' := by simpa [HasEntries] using hentries.symm.trans hentries'
  exact (Outcome.mapM_eq_ok_iff.1 hsurfaces).imp fun _ _ => readSurface_eq_ok_iff.1

namespace ReadsFrom

variable {name : Text}

theorem keys_eq (h : table.ReadsFrom entries) :
    table.surfaces.map Prod.fst = entries.map Prod.fst := by
  have hkeys : List.Forall₂ (· = ·) (entries.map Prod.fst) (table.surfaces.map Prod.fst) := by
    rw [List.forall₂_map_left_iff, List.forall₂_map_right_iff]
    exact h.imp fun _ _ hread => hread.1.symm
  rw [List.forall₂_eq_eq_eq] at hkeys
  exact hkeys.symm

/-- Every entry is found under its name. -/
theorem exists_surface?_of_mem (h : table.ReadsFrom entries) (hkeys : (entries.map Prod.fst).Nodup)
    {value : Value} (hmem : (name, value) ∈ entries) :
    ∃ surface, table.surface? name = some surface ∧ Describes value surface := by
  obtain ⟨preferred, surfaces⟩ := table
  show ∃ surface, surfaces.lookup name = some surface ∧ Describes value surface
  replace h : List.Forall₂ IsReadAs entries surfaces := h
  induction h with
  | nil => cases hmem
  | @cons entry surface _ _ hfirst _ ih =>
    rw [List.map_cons, List.nodup_cons] at hkeys
    rcases List.mem_cons.1 hmem with rfl | hmem
    · exact ⟨surface.2, by rw [List.lookup_cons, hfirst.1, beq_self_eq_true], hfirst.2⟩
    · -- no later entry has the name of the first one
      have hne : (name == surface.1) = false := by
        rw [beq_eq_false_iff_ne, hfirst.1]
        rintro rfl
        exact hkeys.1 (List.mem_map.2 ⟨_, hmem, rfl⟩)
      rw [List.lookup_cons, hne]
      exact ih hkeys.2 hmem

theorem surface?_of_notMem (h : table.ReadsFrom entries) (hname : name ∉ entries.map Prod.fst) :
    table.surface? name = none := by
  rw [surface?, List.lookup_eq_none_iff]
  rw [← h.keys_eq] at hname
  intro surface hsurface
  rw [bne_iff_ne]
  rintro rfl
  exact hname (List.mem_map_of_mem hsurface)

/-- The names of a table are those of its entries, in strictly increasing order. -/
theorem pairwise_names (h : table.ReadsFrom entries) (hkeys : (entries.map Prod.fst).Nodup) :
    table.names.Pairwise (· < ·) := by
  rw [← h.keys_eq] at hkeys
  exact Text.pairwise_lt_sorted hkeys

theorem mem_names_iff (h : table.ReadsFrom entries) :
    name ∈ table.names ↔ name ∈ entries.map Prod.fst := by
  rw [names, List.mem_mergeSort, h.keys_eq]

end ReadsFrom

end ColorLiteral.SurfaceTable
