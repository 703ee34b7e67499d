import ColorLiteral.Proofs.Config.Memory
import ColorLiteral.Proofs.Session.Agreement
import ColorLiteral.Surface.Packaged

/-!
# Memory never shows

A run is timely if a file that gets other bytes also gets another time, from one clearing of the
memory to the next. In a timely run every call of the loader gives what it would give with an empty
memory (`outcome_eq_afresh`): the loads that the run asks for, and those that happen while colors
are written and texts expanded.

What is remembered comes from files that were there since the last clearing. The invariant
`Remembers` says more: it comes from trees of files that agree with the files of the whole rest of
the run, up to the next clearing. Each action keeps it (`Remembers.perform`), so that it holds all
along a run (`Remembers.after`), also in the middle of an action (`IsDuring`).
-/

namespace ColorLiteral

/-- Only the files of one of the two trees have to be compared. -/
theorem FileTree.agreesWith_iff {tree tree' : FileTree} :
    tree.AgreesWith tree' ↔ ∀ p ∈ tree.files.map Prod.fst, ∀ f ∈ tree.file? p,
      ∀ f' ∈ tree'.file? p, f.modified = f'.modified → f.bytes = f'.bytes := by
  constructor
  · intro h p _ f hf f' hf'
    exact h p f f' hf hf'
  · intro h p f f' hf hf'
    refine h p ?_ f hf f' hf'
    obtain ⟨before, after, hfiles, -⟩ := List.lookup_eq_some_iff.1 hf
    simp [hfiles]

instance (tree tree' : FileTree) : Decidable (tree.AgreesWith tree') :=
  decidable_of_iff' _ FileTree.agreesWith_iff

namespace Session

/-! ### Timely runs -/

/-- An action clears the memory. -/
def Clears (s : Session) : Action → Prop
  | .clearCache => True
  | .enterBlock directory => directory.hasNul = false
  | .leaveBlock => s.outerValues ≠ []
  | _ => False

/-- A tree of files agrees with the files all along a run, up to the first action that clears the
memory. -/
def AgreesUntilCleared (tree : FileTree) (s : Session) : List Action → Prop
  | [] => tree.AgreesWith s.host.files
  | a :: actions =>
    tree.AgreesWith s.host.files ∧ (¬ s.Clears a → AgreesUntilCleared tree (s.perform a).2 actions)

/-- Between two clearings of the memory there are never two versions of a file with the same time
and different bytes. -/
def Timely (s : Session) : List Action → Prop
  | [] => True
  | a :: actions => s.AgreesUntilCleared s.host.files (a :: actions) ∧ (s.perform a).2.Timely actions

instance (s : Session) : (a : Action) → Decidable (s.Clears a)
  | .clearCache => inferInstanceAs (Decidable True)
  | .enterBlock directory => inferInstanceAs (Decidable (directory.hasNul = false))
  | .leaveBlock => inferInstanceAs (Decidable (s.outerValues ≠ []))
  | .write _ _ | .makeDirectory _ | .delete _ | .assign _ _ | .provideRelaxedReader _
  | .nearestData _ | .load _ | .surfaceNames | .preferredSurface | .writeColor _ _
  | .writeFallback _ | .expand _ _ | .expandBatch _ _ => inferInstanceAs (Decidable False)

instance decidableAgreesUntilCleared (tree : FileTree) :
    (s : Session) → (actions : List Action) → Decidable (s.AgreesUntilCleared tree actions)
  | s, [] => inferInstanceAs (Decidable (tree.AgreesWith s.host.files))
  | s, a :: actions =>
    have := decidableAgreesUntilCleared tree (s.perform a).2 actions
    inferInstanceAs (Decidable (_ ∧ (_ → _)))

instance decidableTimely : (s : Session) → (actions : List Action) → Decidable (s.Timely actions)
  | _, [] => inferInstanceAs (Decidable True)
  | s, a :: actions =>
    have := decidableTimely (s.perform a).2 actions
    inferInstanceAs (Decidable (_ ∧ _))

/-! ### Calls of the loader -/

/-- The value that a load gives, or its error. -/
def outcome (s : Session) (r : Config.Request) : Except Config.ConfigError Config.Value :=
  (Task.load r s).1.map Config.Loaded.value

/-- The session with an empty memory. -/
def afresh (s : Session) : Session := { s with cache := .empty }

/-- Performing an action calls the loader with a request in some session on the way: a loader that
differs from the usual one in nothing but this call makes a difference. -/
def CallsLoader (s : Session) (a : Action) (r : Config.Request) (v : Session) : Prop :=
  ∃ other : Loader, (∀ q w, (q, w) ≠ (r, v) → other q w = Task.load q w) ∧
    s.performBy other a ≠ s.perform a

theorem fst_load (s : Session) (r : Config.Request) :
    (Task.load r s).1 = (r.load s.host s.cache).1 := by
  rw [Task.load_apply]
  rcases r.load s.host s.cache with ⟨_ | _, _⟩ <;> rfl

theorem outcome_eq (s : Session) (r : Config.Request) : s.outcome r = r.outcome s.host s.cache := by
  rw [outcome, fst_load, Config.Request.outcome]

/-- An action that leaves the session as the loader leaves it calls the loader. -/
theorem callsLoader_of_snd {s : Session} {a : Action} {r : Config.Request}
    (h : ∀ load : Loader, (s.performBy load a).2 = (load r s).2) : s.CallsLoader a r s := by
  classical
  let louder : Loader := fun q w =>
    if (q, w) = (r, s) then ((Task.load q w).1, (Task.load q w).2.note (.emitted []))
    else Task.load q w
  refine ⟨louder, fun q w hne => if_neg hne, fun heq => ?_⟩
  have hlouder : louder r s = ((Task.load r s).1, (Task.load r s).2.note (.emitted [])) := if_pos rfl
  have hsession : (louder r s).2 = (Task.load r s).2 := by
    rw [← h louder, ← h Task.load, heq]
    rfl
  have hlength := congrArg (fun w : Session => w.journal.length) hsession
  simp [hlouder, note] at hlength

theorem answer_snd {ε α : Type} (s : Session) (task : Task ε α) (explain : ε → ExpandError)
    (wrap : α → ActionResult) : (s.answer task explain wrap).2 = (task s).2 := by
  rw [answer]
  rcases task s with ⟨_ | _, _⟩ <;> rfl

/-- A load calls the loader with its request. -/
theorem callsLoader_load (s : Session) (r : Config.Request) : s.CallsLoader (.load r) r s :=
  callsLoader_of_snd fun load => answer_snd s (load r) _ _

/-- The names of the surfaces are loaded. -/
theorem callsLoader_surfaceNames (s : Session) :
    s.CallsLoader .surfaceNames (SurfaceTable.request s.host.hasRelaxedReader) s := by
  refine callsLoader_of_snd fun load => ?_
  rw [performBy, answer_snd]
  show (((load (SurfaceTable.request s.host.hasRelaxedReader)).adapt EmitError.config >>=
    fun loaded => (Task.ofExcept (SurfaceTable.ofValue loaded.file loaded.value)).adapt _) s).2 = _
  rw [Task.bind_apply, Task.adapt_apply]
  rcases load (SurfaceTable.request s.host.hasRelaxedReader) s with ⟨_ | _, _⟩ <;> rfl

/-! ### The memory on the way through an action -/

/-- The surroundings are given ones, and what is remembered is from given trees of files. -/
structure Knows (h : Config.Host) (trees : FileTree → Prop) (s : Session) : Prop where
  host_eq : s.host = h
  isFrom : s.cache.IsFrom h trees

variable {s v : Session} {h : Config.Host} {trees : FileTree → Prop} {a : Action}
  {actions : List Action}

theorem Knows.note (event : Event) (hs : Knows h trees s) : Knows h trees (s.note event) :=
  ⟨hs.host_eq, hs.isFrom⟩

theorem host_load (s : Session) (r : Config.Request) : (Task.load r s).2.host = s.host := by
  rw [Task.load_apply]
  rcases r.load s.host s.cache with ⟨_ | _, _⟩ <;> rfl

theorem cache_load (s : Session) (r : Config.Request) :
    (Task.load r s).2.cache = (r.load s.host s.cache).2 := by
  rw [Task.load_apply]
  rcases r.load s.host s.cache with ⟨_ | _, _⟩ <;> rfl

theorem outerValues_load (s : Session) (r : Config.Request) :
    (Task.load r s).2.outerValues = s.outerValues := by
  rw [Task.load_apply]
  rcases r.load s.host s.cache with ⟨_ | _, _⟩ <;> rfl

theorem Knows.load {r : Config.Request} (htree : trees h.files) (hs : Knows h trees s) :
    Knows h trees (Task.load r s).2 := by
  refine ⟨by rw [host_load, hs.host_eq], ?_⟩
  rw [cache_load, hs.host_eq]
  exact hs.isFrom.load htree

/-- While the files agree with the trees, a load gives the same as one with an empty memory. -/
theorem Knows.outcome_eq (hs : Knows h trees s)
    (hagree : ∀ tree, trees tree → tree.AgreesWith h.files) (r : Config.Request) :
    s.outcome r = s.afresh.outcome r := by
  have hempty : s.afresh.outcome r = r.outcome s.host .empty := Session.outcome_eq _ r
  rw [hempty, Session.outcome_eq, hs.host_eq, Config.outcome_empty]
  exact Config.outcome_eq_evaluate hs.isFrom hagree

/-- What is known before an action is known at every call of the loader. -/
theorem Knows.during {r : Config.Request} (htree : trees h.files) (hs : Knows h trees s)
    (hcall : s.CallsLoader a r v) : Knows h trees v := by
  obtain ⟨other, hother, hne⟩ := hcall
  by_contra hv
  have hload (q : Config.Request) : Agree (Knows h trees) (Task.load q) (other q) := by
    intro w hw
    refine ⟨hother q w ?_, hw.load htree⟩
    rintro ⟨⟩
    exact hv hw
  exact hne (performBy_agree hload (fun _ event hs => hs.note event) hs a).1

theorem Knows.perform (htree : trees h.files) (hs : Knows h trees s)
    (ha : a.leavesSurroundings = true) : Knows h trees (s.perform a).2 := by
  have hload (q : Config.Request) : Agree (Knows h trees) (Task.load q) (Task.load q) :=
    fun w hw => ⟨rfl, hw.load htree⟩
  exact (performBy_agree hload (fun _ event hs => hs.note event) hs a).2 ha

/-! ### The memory along a run -/

theorem host_perform (s : Session) (ha : a.leavesSurroundings = true) :
    (s.perform a).2.host = s.host := by
  have hload (q : Config.Request) :
      Agree (fun w => w.host = s.host) (Task.load q) (Task.load q) :=
    fun w hw => ⟨rfl, (host_load w q).trans hw⟩
  exact (performBy_agree hload (fun _ _ hw => hw) rfl a).2 ha

/-- Only the reader of relaxed JSON can change how files are read. -/
theorem readsLike_perform (s : Session) (a : Action)
    (hreader : ∀ available, a = .provideRelaxedReader available →
      available = s.host.hasRelaxedReader) : s.host.ReadsLike (s.perform a).2.host := by
  have hsame {s' : Session} (h : s'.host = s.host) : s.host.ReadsLike s'.host := by
    rw [h]
    exact ⟨rfl, rfl, rfl⟩
  have hchange (path : Path) (f : FileTree → FileTree) :
      s.host.ReadsLike (s.change path f).2.host := by
    unfold change
    split
    · exact hsame rfl
    · exact ⟨rfl, rfl, rfl⟩
  cases ha : a.leavesSurroundings with
  | true => exact hsame (host_perform s ha)
  | false =>
    cases a with
    | write | makeDirectory | delete => exact hchange _ _
    | assign name value =>
      rw [perform, performBy]
      split <;> exact ⟨rfl, rfl, rfl⟩
    | provideRelaxedReader available => exact ⟨(hreader available rfl).symm, rfl, rfl⟩
    | clearCache => exact ⟨rfl, rfl, rfl⟩
    | enterBlock directory =>
      rw [perform, performBy]
      split <;> exact ⟨rfl, rfl, rfl⟩
    | leaveBlock =>
      rw [perform, performBy, leaveBlock]
      split <;> exact ⟨rfl, rfl, rfl⟩
    | _ => cases ha

/-- Nothing that happens to a session changes its readers. -/
theorem readers_perform (s : Session) (a : Action) :
    (s.perform a).2.host.readers = s.host.readers := by
  cases a with
  | provideRelaxedReader => rfl
  | _ =>
    refine (readsLike_perform s _ ?_).readers_eq.symm
    nofun

theorem readers_after (s : Session) (actions : List Action) :
    (s.after actions).host.readers = s.host.readers := by
  induction actions generalizing s with
  | nil => rfl
  | cons a actions ih => exact (ih (s.perform a).2).trans (readers_perform s a)

theorem cache_perform_of_clears (hclears : s.Clears a) :
    (s.perform a).2.cache = s.cache.clear := by
  cases a with
  | clearCache => rfl
  | enterBlock directory =>
    have hnul : ¬ directory.hasNul = true := by rw [hclears]; exact Bool.false_ne_true
    rw [perform, performBy, if_neg hnul]
    rfl
  | leaveBlock =>
    obtain ⟨outer, outerValues, houter⟩ := List.exists_cons_of_ne_nil hclears
    rw [perform, performBy, leaveBlock, houter]
    rfl
  | _ => cases hclears

theorem cache_perform_of_not_clears (ha : a.leavesSurroundings = false) (hkeeps : ¬ s.Clears a) :
    (s.perform a).2.cache = s.cache := by
  have hchange (path : Path) (f : FileTree → FileTree) : (s.change path f).2.cache = s.cache := by
    unfold change
    split <;> rfl
  cases a with
  | write | makeDirectory | delete => exact hchange _ _
  | assign name value =>
    rw [perform, performBy]
    split <;> rfl
  | provideRelaxedReader => rfl
  | clearCache => exact absurd trivial hkeeps
  | enterBlock directory =>
    have hnul : directory.hasNul = true := by simpa [Clears] using hkeeps
    rw [perform, performBy, if_pos hnul]
  | leaveBlock =>
    have houter : s.outerValues = [] := by simpa [Clears] using hkeeps
    rw [perform, performBy, leaveBlock, houter]
  | _ => cases ha

theorem AgreesUntilCleared.agreesWith {tree : FileTree}
    (htree : s.AgreesUntilCleared tree actions) : tree.AgreesWith s.host.files := by
  cases actions with
  | nil => exact htree
  | cons => exact htree.1

/-- What is remembered is from trees of files that agree with the files of the rest of a run, up to
the next clearing. The rest of the run is timely and leaves the reader of relaxed JSON as it is. -/
structure Remembers (s : Session) (actions : List Action) : Prop where
  knows : Knows s.host (s.AgreesUntilCleared · actions) s
  timely : s.Timely actions
  reader : ∀ available, .provideRelaxedReader available ∈ actions →
    available = s.host.hasRelaxedReader

theorem Remembers.agreesUntilCleared (hs : s.Remembers (a :: actions)) :
    s.AgreesUntilCleared s.host.files (a :: actions) := hs.timely.1

theorem Remembers.readsLike (hs : s.Remembers (a :: actions)) :
    s.host.ReadsLike (s.perform a).2.host :=
  readsLike_perform s a fun available ha => hs.reader available (by simp [ha])

/-- Each action keeps the invariant. -/
theorem Remembers.perform (hs : s.Remembers (a :: actions)) :
    (s.perform a).2.Remembers actions := by
  have htrees (hkeeps : ¬ s.Clears a) (tree : FileTree)
      (htree : s.AgreesUntilCleared tree (a :: actions)) :
      (s.perform a).2.AgreesUntilCleared tree actions := htree.2 hkeeps
  refine ⟨⟨rfl, ?_⟩, hs.timely.2, ?_⟩
  · by_cases hclears : s.Clears a
    · rw [cache_perform_of_clears hclears]
      exact .of_clear
    · cases ha : a.leavesSurroundings with
      | true =>
        have hknows := hs.knows.perform hs.agreesUntilCleared ha
        exact hknows.isFrom.mono hs.readsLike (htrees hclears)
      | false =>
        rw [cache_perform_of_not_clears ha hclears]
        exact hs.knows.isFrom.mono hs.readsLike (htrees hclears)
  · intro available hmem
    rw [hs.reader available (List.mem_cons_of_mem _ hmem)]
    exact hs.readsLike.hasRelaxedReader_eq

theorem Remembers.after {before : List Action} (hs : s.Remembers (before ++ actions)) :
    (s.after before).Remembers actions := by
  induction before generalizing s with
  | nil => exact hs
  | cons a before ih => exact ih hs.perform

theorem Remembers.outcome_eq (hs : s.Remembers (a :: actions)) {r : Config.Request}
    (hcall : s.CallsLoader a r v) : v.outcome r = v.afresh.outcome r :=
  (hs.knows.during hs.agreesUntilCleared hcall).outcome_eq (fun _ htree => htree.agreesWith) r

/-- In a timely run that leaves the reader of relaxed JSON as it is, every load and every call of
the loader during an action gives the value or the error that it would give with an empty memory. -/
theorem outcome_eq_afresh {host : Config.Host} {actions : List Action}
    (hreader : ∀ available, .provideRelaxedReader available ∈ actions →
      available = host.hasRelaxedReader)
    (htimely : (start host).Timely actions) :
    (∀ before r rest, actions = before ++ .load r :: rest →
      ((start host).after before).outcome r = ((start host).after before).afresh.outcome r) ∧
    ∀ before a rest r v, actions = before ++ a :: rest →
      ((start host).after before).CallsLoader a r v → v.outcome r = v.afresh.outcome r := by
  have hcalls (before : List Action) (a : Action) (rest : List Action) (r : Config.Request)
      (v : Session) (hsplit : actions = before ++ a :: rest)
      (hcall : ((start host).after before).CallsLoader a r v) :
      v.outcome r = v.afresh.outcome r := by
    have hstart : (start host).Remembers actions := ⟨⟨rfl, .empty⟩, htimely, hreader⟩
    rw [hsplit] at hstart
    exact hstart.after.outcome_eq hcall
  refine ⟨fun before r rest hsplit => ?_, hcalls⟩
  exact hcalls before _ rest r _ hsplit (callsLoader_load _ r)

/-- A file that is loaded, rewritten with another time, and loaded twice again, before the surface
table is loaded for its names. -/
theorem outcome_eq_afresh_rewritten :
    ∃ (host : Config.Host) (path : Path) (r table : Config.Request) (before : List Action),
      before = [.write path ⟨[0x31], 1⟩, .load r, .write path ⟨[0x32], 2⟩, .load r] ∧
      (start host).Timely (before ++ [.load r, .surfaceNames]) ∧
      ((start host).after before).outcome r = ((start host).after before).afresh.outcome r ∧
      ((start host).after (before ++ [.load r])).outcome table =
        ((start host).after (before ++ [.load r])).afresh.outcome table := by
  let data : Path := Path.root.child "data"
  let r : Config.Request := ⟨"a", some (Path.root.child "data"), .raw, "locale", false, none⟩
  have htimely : (start (Config.Host.bare .empty)).Timely
      ([.write (data.child "a.json") ⟨[0x31], 1⟩, .load r,
        .write (data.child "a.json") ⟨[0x32], 2⟩, .load r] ++ [.load r, .surfaceNames]) := by
    decide +kernel
  obtain ⟨hloads, hcalls⟩ := outcome_eq_afresh (by simp) htimely
  exact ⟨_, _, r, _, _, rfl, htimely, hloads _ r [.surfaceNames] rfl,
    hcalls _ _ [] _ _ rfl (callsLoader_surfaceNames _)⟩

end Session

end ColorLiteral
