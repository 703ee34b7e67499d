import ColorLiteral.Proofs.Config.Keys
import ColorLiteral.Proofs.Outcome

/-!
# What loading remembers

A remembered value is one that a file had at some time: the file at the path of its key, with the
time of its key. `Cache.IsFrom` says so for a whole memory, with the trees of files that were there.
While the files agree with these trees, a load from memory gives the same as one without
(`outcome_eq_evaluate`), and what it remembers is from the files too (`IsFrom.load`).

The key of a value holds everything else that the value depends on (`valueOf_eq_of_keyOf_eq`). Only
the bytes are not in the key; the time stands for them.
-/

namespace ColorLiteral

/-- Files at the same path with the same time have the same bytes. -/
def FileTree.AgreesWith (tree tree' : FileTree) : Prop :=
  ∀ p f f', tree.file? p = some f → tree'.file? p = some f' → f.modified = f'.modified →
    f.bytes = f'.bytes

namespace Config

variable {h h' : Host} {r r' : Request} {found found' : Located} {c : Cache}

/-! ### What a value depends on -/

/-- Hosts that read and check alike. The files and the environment may differ. -/
structure Host.ReadsLike (h h' : Host) : Prop where
  hasRelaxedReader_eq : h.hasRelaxedReader = h'.hasRelaxedReader
  readers_eq : h.readers = h'.readers
  checks_eq : h.checks = h'.checks

theorem Host.ReadsLike.valueOf_eq (hlike : h.ReadsLike h') :
    r.valueOf h found = r.valueOf h' found := by
  obtain ⟨hreader, hreaders, hchecks⟩ := hlike
  have hread : h.read = h'.read := by
    funext path bytes encoding relaxed
    simp only [Host.read, Host.readText, hreader, hreaders]
  have htreat : h.treat = h'.treat := by
    funext file mode check value
    have hcheckOf : h.checkOf = h'.checkOf := by
      funext id
      cases id with
      | surfaces => rfl
      | named name => simp only [Host.checkOf, hchecks]
    simp only [Host.treat, hcheckOf]
  rw [Request.valueOf, Request.valueOf, hread, htreat]

/-- The key and the bytes of a file fix its value. -/
theorem valueOf_eq_of_keyOf_eq (hkey : r.keyOf found = r'.keyOf found')
    (hbytes : found.file.bytes = found'.file.bytes) : r.valueOf h found = r'.valueOf h found' := by
  simp only [Request.keyOf, CacheKey.mk.injEq] at hkey
  obtain ⟨hpath, -, hmode, hencoding, hrelaxed, hcheck⟩ := hkey
  rw [Request.valueOf, Request.valueOf, hpath, hmode, hencoding, hrelaxed, hcheck, hbytes]

theorem file?_of_locate (hfound : r.locate h = .ok found) :
    h.files.file? found.path = some found.file := by
  obtain ⟨directory, -, hrest⟩ := Outcome.bind_eq_ok_iff.1 hfound
  dsimp only at hrest
  split at hrest
  · cases hrest
  split at hrest
  · split at hrest
    · next hfile =>
      cases hrest
      exact hfile
    · cases hrest
  · cases hrest

/-! ### Memory and files -/

/-- A value that some request finds in a tree of files, and the key of that request. -/
def IsValueIn (h : Host) (tree : FileTree) (key : CacheKey) (value : Value) : Prop :=
  ∃ (r : Request) (found : Located), r.keyOf found = key ∧
    tree.file? found.path = some found.file ∧ r.valueOf h found = .ok value

/-- Every remembered value is from one of the trees. -/
def Cache.IsFrom (c : Cache) (h : Host) (trees : FileTree → Prop) : Prop :=
  ∀ key entry, c.find? key = some entry → ∃ tree, trees tree ∧ IsValueIn h tree key entry.value

namespace Cache.IsFrom

variable {trees trees' : FileTree → Prop}

theorem of_clear : c.clear.IsFrom h trees := by
  intro key entry hentry
  cases hentry

theorem empty : Cache.empty.IsFrom h trees := by
  intro key entry hentry
  cases hentry

theorem mono (hc : c.IsFrom h trees) (hlike : h.ReadsLike h')
    (htrees : ∀ tree, trees tree → trees' tree) : c.IsFrom h' trees' := by
  intro key entry hentry
  obtain ⟨tree, htree, r, found, hkey, hfile, hvalue⟩ := hc key entry hentry
  exact ⟨tree, htrees tree htree, r, found, hkey, hfile, hlike.valueOf_eq ▸ hvalue⟩

theorem remember {key : CacheKey} {value : Value} {tree : FileTree} (hc : c.IsFrom h trees)
    (htree : trees tree) (hvalue : IsValueIn h tree key value) :
    (c.remember key value).IsFrom h trees := by
  intro other entry hentry
  by_cases hother : other = key
  · subst hother
    rw [find?_remember] at hentry
    cases hentry
    exact ⟨tree, htree, hvalue⟩
  · rw [find?_remember_of_ne c value hother] at hentry
    exact hc other entry hentry

/-- What a load remembers is from the files. -/
theorem load (hc : c.IsFrom h trees) (htree : trees h.files) : (r.load h c).2.IsFrom h trees := by
  have hloading := r.loading h c
  generalize r.load h c = result at hloading
  cases hloading with
  | failed | remembered => exact hc
  | stored hfound _ hvalue =>
    exact hc.remember htree ⟨r, _, rfl, file?_of_locate hfound, hvalue⟩

end Cache.IsFrom

/-! ### Loading with and without memory -/

/-- The value that a load gives, or its error. -/
def Request.outcome (r : Request) (h : Host) (c : Cache) : Except ConfigError Value :=
  (r.load h c).1.map Loaded.value

/-- A remembered value is the one that its file has, while the files agree with those that the
memory is from. -/
theorem valueOf_of_find? {trees : FileTree → Prop} {entry : CacheEntry} (hc : c.IsFrom h trees)
    (hagree : ∀ tree, trees tree → tree.AgreesWith h.files) (hfound : r.locate h = .ok found)
    (hentry : c.find? (r.keyOf found) = some entry) : r.valueOf h found = .ok entry.value := by
  obtain ⟨tree, htree, r', found', hkey, hfile, hvalue⟩ := hc _ _ hentry
  have hpath : found'.path = found.path := congrArg CacheKey.path hkey
  have hmodified : found'.file.modified = found.file.modified := congrArg CacheKey.modified hkey
  have hbytes : found'.file.bytes = found.file.bytes :=
    hagree tree htree found.path _ _ (hpath ▸ hfile) (file?_of_locate hfound) hmodified
  rw [← hvalue]
  exact (valueOf_eq_of_keyOf_eq hkey hbytes).symm

/-- A load gives the same as one without memory. -/
theorem outcome_eq_evaluate {trees : FileTree → Prop} (hc : c.IsFrom h trees)
    (hagree : ∀ tree, trees tree → tree.AgreesWith h.files) : r.outcome h c = r.evaluate h := by
  rw [Request.outcome, Request.load, Request.evaluate]
  cases hfound : r.locate h with
  | error e => rfl
  | ok found =>
    show _ = r.valueOf h found
    cases hentry : c.find? (r.keyOf found) with
    | some entry =>
      simp only [hentry, Except.map]
      exact (valueOf_of_find? hc hagree hfound hentry).symm
    | none => cases hvalue : r.valueOf h found <;> simp only [hentry, hvalue, Except.map]

theorem outcome_empty : r.outcome h .empty = r.evaluate h :=
  outcome_eq_evaluate (Cache.IsFrom.empty : Cache.empty.IsFrom h fun _ => False) fun _ h => h.elim

end Config

end ColorLiteral
