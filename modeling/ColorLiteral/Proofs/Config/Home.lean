import ColorLiteral.Config.Host
import Mathlib.Data.List.TakeWhile

/-!
# Home directories

A written path that starts with a tilde lies below the home directory of a user, if there is one
that is known, and every other path stands for itself. `Host.ExpandsTo` says so by the parts of the
path, and the loader goes by it (`Host.expandUser_eq_iff`).
-/

namespace ColorLiteral.Config.Host

variable {h : Host} {t t' user home path stem slashes : Text}

/-- The home directory of the user of a name. The empty name is that of the current user, for whom
the environment counts before the system. -/
inductive IsHomeOf (h : Host) : Text → Text → Prop
  | assigned {home : Text} (hvalue : h.environment Environment.userHome = some home) :
      IsHomeOf h [] home
  | current {home : Text} (hunset : h.environment Environment.userHome = none)
      (hhome : h.userHome? none = some home) : IsHomeOf h [] home
  | named {user home : Text} (hne : user ≠ []) (hhome : h.userHome? (some user) = some home) :
      IsHomeOf h user home

/-- A written path is a tilde, the name of a user, and what follows from the first slash on. -/
structure IsBelowHome (t user path : Text) : Prop where
  eq : t = '~' :: (user ++ path)
  noSlash : ∀ c ∈ user, c ≠ '/'
  slash : ∀ c ∈ path.head?, c = '/'

/-- What a written path stands for. -/
inductive ExpandsTo (h : Host) : Text → Text → Prop
  | plain {t : Text} (htilde : t.head? ≠ some '~') : ExpandsTo h t t
  /-- The user has no home directory. -/
  | unknown {t user path : Text} (ht : IsBelowHome t user path)
      (hhome : ∀ home, ¬ h.IsHomeOf user home) : ExpandsTo h t t
  /-- The slashes at the end of the home directory do not count. -/
  | below {t user path stem slashes : Text} (ht : IsBelowHome t user path)
      (hhome : h.IsHomeOf user (stem ++ slashes)) (hslashes : ∀ c ∈ slashes, c = '/')
      (hstem : stem.getLast? ≠ some '/') (hne : stem ++ path ≠ []) : ExpandsTo h t (stem ++ path)
  | root {t user slashes : Text} (ht : IsBelowHome t user []) (hhome : h.IsHomeOf user slashes)
      (hslashes : ∀ c ∈ slashes, c = '/') : ExpandsTo h t ['/']

theorem homeOf?_eq_some_iff : h.homeOf? user = some home ↔ h.IsHomeOf user home := by
  constructor
  · intro hsome
    cases user with
    | nil =>
      cases hvalue : h.environment Environment.userHome with
      | some value =>
        rw [homeOf?, hvalue] at hsome
        cases hsome
        exact .assigned hvalue
      | none =>
        rw [homeOf?, hvalue] at hsome
        exact .current hvalue hsome
    | cons c user => exact .named (List.cons_ne_nil c user) hsome
  · intro hhome
    cases hhome with
    | assigned hvalue =>
      rw [homeOf?, hvalue]
      rfl
    | current hunset hhome =>
      rw [homeOf?, hunset]
      exact hhome
    | named hne hhome => rwa [homeOf?, if_neg (by simpa using hne)]

theorem homeOf?_eq_none_iff : h.homeOf? user = none ↔ ∀ home, ¬ h.IsHomeOf user home := by
  simp [← homeOf?_eq_some_iff, Option.eq_none_iff_forall_ne_some]

/-! ### The parts of a path -/

theorem exists_isBelowHome (rest : Text) : IsBelowHome ('~' :: rest)
    (rest.takeWhile (· ≠ '/')) (rest.dropWhile (· ≠ '/')) where
  eq := by rw [List.takeWhile_append_dropWhile]
  noSlash c hc := by simpa using List.mem_takeWhile_imp hc
  slash c hc := by
    have hfirst := List.head?_dropWhile_not (fun c : Char => decide (c ≠ '/')) rest
    rw [hc] at hfirst
    simpa using hfirst

theorem IsBelowHome.expandUser_eq (ht : IsBelowHome t user path) : h.expandUser t =
    match h.homeOf? user with
    | some home => below home path
    | none => t := by
  obtain ⟨rfl, hnoSlash, hslash⟩ := ht
  have hpath : path.takeWhile (· ≠ '/') = [] := by
    cases path with
    | nil => rfl
    | cons c path => simp [hslash c rfl]
  have huser : (user ++ path).takeWhile (· ≠ '/') = user := by
    rw [List.takeWhile_append_of_pos (by simpa using hnoSlash), hpath, List.append_nil]
  show (match h.homeOf? ((user ++ path).takeWhile (· ≠ '/')) with
    | some home => below home ((user ++ path).drop ((user ++ path).takeWhile (· ≠ '/')).length)
    | none => '~' :: (user ++ path)) = _
  rw [huser, List.drop_left]

theorem below_append (hslashes : ∀ c ∈ slashes, c = '/') (hstem : stem.getLast? ≠ some '/')
    (path : Text) : below (stem ++ slashes) path =
      if stem ++ path = [] then ['/'] else stem ++ path := by
  have hreverse : slashes.reverse.dropWhile (· == '/') = [] :=
    List.dropWhile_eq_nil_iff.2 (by simpa using hslashes)
  have hhead : stem.reverse.dropWhile (· == '/') = stem.reverse := by
    cases hlast : stem.reverse with
    | nil => rfl
    | cons c rest =>
      have hc : c ≠ '/' := by
        rintro rfl
        exact hstem (by rw [← List.head?_reverse, hlast]; rfl)
      simp [hc]
  have hwhole : ((stem ++ slashes).reverse.dropWhile (· == '/')).reverse = stem := by
    rw [List.reverse_append, List.dropWhile_append, hreverse, hhead]
    simp
  rw [below, hwhole]
  cases stem ++ path <;> rfl

theorem exists_stem (home : Text) : ∃ stem slashes, home = stem ++ slashes ∧
    (∀ c ∈ slashes, c = '/') ∧ stem.getLast? ≠ some '/' := by
  refine ⟨(home.reverse.dropWhile (· == '/')).reverse,
    (home.reverse.takeWhile (· == '/')).reverse, ?_, fun c hc => ?_, ?_⟩
  · rw [← List.reverse_append, List.takeWhile_append_dropWhile, List.reverse_reverse]
  · simpa using List.mem_takeWhile_imp (List.mem_reverse.1 hc)
  · intro hlast
    have hfirst := List.head?_dropWhile_not (· == '/') home.reverse
    rw [List.getLast?_reverse] at hlast
    simp [hlast] at hfirst

/-! ### Expanding -/

theorem expandUser_of_expandsTo (hexpands : h.ExpandsTo t t') : h.expandUser t = t' := by
  cases hexpands with
  | plain htilde =>
    unfold expandUser
    split
    · exact absurd rfl htilde
    · rfl
  | unknown ht hhome => rw [ht.expandUser_eq, homeOf?_eq_none_iff.2 hhome]
  | below ht hhome hslashes hstem hne =>
    rw [ht.expandUser_eq, homeOf?_eq_some_iff.2 hhome]
    exact (below_append hslashes hstem _).trans (if_neg hne)
  | root ht hhome hslashes =>
    rw [ht.expandUser_eq, homeOf?_eq_some_iff.2 hhome]
    have hroot : ([] : Text).getLast? ≠ some '/' := by simp
    exact below_append hslashes hroot []

theorem exists_expandsTo (h : Host) (t : Text) : ∃ t', h.ExpandsTo t t' := by
  by_cases htilde : t.head? = some '~'
  · obtain ⟨rest, rfl⟩ : ∃ rest, t = '~' :: rest := by
      cases t with
      | nil => cases htilde
      | cons c rest => exact ⟨rest, by rw [Option.some.inj htilde]⟩
    have ht := exists_isBelowHome rest
    generalize rest.dropWhile (· ≠ '/') = path at ht
    cases hhome : h.homeOf? (rest.takeWhile (· ≠ '/')) with
    | none => exact ⟨_, .unknown ht (homeOf?_eq_none_iff.1 hhome)⟩
    | some home =>
      obtain ⟨stem, slashes, rfl, hslashes, hstem⟩ := exists_stem home
      rw [homeOf?_eq_some_iff] at hhome
      by_cases hne : stem ++ path = []
      · obtain ⟨rfl, rfl⟩ := List.append_eq_nil_iff.1 hne
        exact ⟨_, .root ht hhome hslashes⟩
      · exact ⟨_, .below ht hhome hslashes hstem hne⟩
  · exact ⟨t, .plain htilde⟩

/-- The loader puts a home directory in the place of a tilde exactly as it should be. -/
theorem expandUser_eq_iff : h.expandUser t = t' ↔ h.ExpandsTo t t' := by
  refine ⟨?_, expandUser_of_expandsTo⟩
  rintro rfl
  obtain ⟨t', hexpands⟩ := exists_expandsTo h t
  rwa [expandUser_of_expandsTo hexpands]

end ColorLiteral.Config.Host
