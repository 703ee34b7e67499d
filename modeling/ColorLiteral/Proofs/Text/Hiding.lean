import ColorLiteral.Text.Basic
import Mathlib.Algebra.Ring.Parity
import Mathlib.Data.List.DropRight

/-!
# Characters that a backslash hides

A backslash hides the character behind it, also another backslash. So the backslashes at the end of
a text hide what follows if there is an odd number of them (`HidesNext`), and some characters stand
bare in a text if those in front of them do not hide the first one (`HasBare`). A text that hides
nothing behind it can be put in front of any other text without a change to that one
(`hidesNext_append`, `hasBare_append`).
-/

namespace ColorLiteral.Text

variable {p s t : Text}

/-- The backslashes at the end of a text hide the next character. -/
def HidesNext (t : Text) : Prop := Odd (t.rtakeWhile (· = '\\')).length

instance (t : Text) : Decidable (HidesNext t) := inferInstanceAs (Decidable (Odd _))

/-- Some characters stand in a text, and no backslash hides the first one of them. -/
def HasBare (t p : Text) : Prop := ∃ before after, t = before ++ (p ++ after) ∧ ¬ HidesNext before

theorem not_hidesNext_nil : ¬ HidesNext [] := by
  simp [HidesNext]

theorem hidesNext_concat (t : Text) (c : Char) :
    HidesNext (t ++ [c]) ↔ c = '\\' ∧ ¬ HidesNext t := by
  rw [HidesNext, List.rtakeWhile_concat]
  by_cases hc : c = '\\'
  · simp [hc, HidesNext, Nat.odd_add_one]
  · simp [hc]

/-- What is hidden behind a text does not hang on what stands bare in front of it. -/
theorem hidesNext_append (hs : ¬ HidesNext s) (t : Text) : HidesNext (s ++ t) ↔ HidesNext t := by
  induction t using List.reverseRecOn with
  | nil => simp [hs, not_hidesNext_nil]
  | append_singleton t c ih => rw [← List.append_assoc, hidesNext_concat, hidesNext_concat, ih]

theorem hidesNext_backslash : HidesNext ['\\'] :=
  (hidesNext_concat [] '\\').2 ⟨rfl, not_hidesNext_nil⟩

/-- Characters at the start of a text stand bare. -/
theorem hasBare_of_isPrefix (h : p <+: t) : HasBare t p := by
  obtain ⟨after, rfl⟩ := h
  exact ⟨[], after, rfl, not_hidesNext_nil⟩

/-- Behind a text that hides nothing, characters stand bare as they do by themselves. No bare
characters are cut by the place between the two texts, if a part of them hides the next one. -/
theorem hasBare_append (hs : ¬ HidesNext s)
    (hp : ∀ u v, p = u ++ v → u ≠ [] → v ≠ [] → HidesNext u) :
    HasBare (s ++ t) p ↔ HasBare s p ∨ HasBare t p := by
  constructor
  · rintro ⟨before, after, heq, hbare⟩
    obtain ⟨u, rfl, ht⟩ | ⟨u, rfl, hu⟩ := List.append_eq_append_iff.1 heq
    · rw [hidesNext_append hs] at hbare
      exact .inr ⟨u, after, ht, hbare⟩
    · obtain ⟨v, rfl, -⟩ | ⟨v, rfl, hv⟩ := List.append_eq_append_iff.1 hu
      · exact .inl ⟨before, v, rfl, hbare⟩
      · -- the characters would start in the first text and end in the second one
        by_cases hu : u = []
        · subst hu
          exact .inr ⟨[], after, hv, not_hidesNext_nil⟩
        · by_cases hv' : v = []
          · subst hv'
            exact .inl ⟨before, [], by simp, hbare⟩
          · rw [hidesNext_append hbare] at hs
            exact absurd (hp u v rfl hu hv') hs
  · rintro (⟨before, after, rfl, hbare⟩ | ⟨before, after, rfl, hbare⟩)
    · exact ⟨before, after ++ t, by simp, hbare⟩
    · exact ⟨s ++ before, after, by simp, by rwa [hidesNext_append hs]⟩

/-! ### The first bare place of a character -/

variable {q : Char}

theorem hasBare_concat (t : Text) (c q : Char) :
    HasBare (t ++ [c]) [q] ↔ HasBare t [q] ∨ c = q ∧ ¬ HidesNext t := by
  constructor
  · rintro ⟨before, after, heq, hbare⟩
    obtain rfl | ⟨after, d, rfl⟩ := after.eq_nil_or_concat
    · obtain ⟨rfl, hc⟩ := List.append_inj' heq rfl
      exact .inr ⟨(List.cons.inj hc).1, hbare⟩
    · rw [List.concat_eq_append, ← List.append_assoc, ← List.append_assoc] at heq
      obtain ⟨rfl, -⟩ := List.append_inj' heq rfl
      exact .inl ⟨before, after, List.append_assoc .., hbare⟩
  · rintro (⟨before, after, rfl, hbare⟩ | ⟨rfl, hbare⟩)
    · exact ⟨before, after ++ [c], by simp, hbare⟩
    · exact ⟨t, [], by simp, hbare⟩

/-- A character that stands bare in a text stands bare at some place first. -/
theorem exists_first_bare (h : HasBare t [q]) :
    ∃ before after, t = before ++ q :: after ∧ ¬ HasBare before [q] ∧ ¬ HidesNext before := by
  induction t using List.reverseRecOn with
  | nil => simp [HasBare] at h
  | append_singleton t c ih =>
    by_cases ht : HasBare t [q]
    · obtain ⟨before, after, rfl, hfirst⟩ := ih ht
      exact ⟨before, after ++ [c], by simp, hfirst⟩
    · obtain ⟨rfl, hbare⟩ := ((hasBare_concat t c q).1 h).resolve_left ht
      exact ⟨t, [], rfl, ht, hbare⟩

/-! ### Raw text of a literal -/

/-- A backslash in front of a bracket opens an interpolation. -/
def opening : Text := ['\\', '(']

/-- A text can be a piece of raw text of a literal on one line: no interpolation is opened in it, it
has no bare line break, and it hides nothing behind it. -/
structure IsRaw (t : Text) : Prop where
  not_hidesNext : ¬ HidesNext t
  no_opening : ¬ HasBare t opening
  no_lineBreak : ¬ HasBare t ['\n']

theorem hidesNext_of_opening_eq (u v : Text) (h : opening = u ++ v) (hu : u ≠ []) (hv : v ≠ []) :
    HidesNext u := by
  obtain ⟨c, u, rfl⟩ := List.exists_cons_of_ne_nil hu
  obtain ⟨rfl, htail⟩ := List.cons.inj h
  obtain rfl : u = [] := by
    have hlength : 1 = (u ++ v).length := congrArg List.length htail
    have hpos := List.length_pos_iff.2 hv
    rw [List.length_append] at hlength
    exact List.length_eq_zero_iff.1 (by omega)
  exact hidesNext_backslash

theorem isRaw_nil : IsRaw [] where
  not_hidesNext := not_hidesNext_nil
  no_opening := by simp [HasBare, opening]
  no_lineBreak := by simp [HasBare]

theorem IsRaw.append (hs : IsRaw s) (ht : IsRaw t) : IsRaw (s ++ t) where
  not_hidesNext := by rw [hidesNext_append hs.not_hidesNext]; exact ht.not_hidesNext
  no_opening := by
    rw [hasBare_append hs.not_hidesNext hidesNext_of_opening_eq]
    exact not_or.2 ⟨hs.no_opening, ht.no_opening⟩
  no_lineBreak := by
    have hsingle (u v : Text) (h : ['\n'] = u ++ v) (hu : u ≠ []) (hv : v ≠ []) : HidesNext u := by
      simp [List.singleton_eq_append_iff, hu, hv] at h
    rw [hasBare_append hs.not_hidesNext hsingle]
    exact not_or.2 ⟨hs.no_lineBreak, ht.no_lineBreak⟩

theorem isRaw_singleton {c : Char} (hback : c ≠ '\\') (hbreak : c ≠ '\n') : IsRaw [c] where
  not_hidesNext h := hback ((hidesNext_concat [] c).1 h).1
  no_opening := by
    rintro ⟨before, after, heq, -⟩
    have hlength := congrArg List.length heq
    simp only [opening, List.length_append, List.length_cons, List.length_nil] at hlength
    omega
  no_lineBreak := by
    rintro ⟨before, after, heq, -⟩
    have hmem : '\n' ∈ [c] := by rw [heq]; simp
    exact hbreak (List.mem_singleton.1 hmem).symm

/-- A backslash and the character that it hides. -/
theorem isRaw_hidden {c : Char} (hc : c ≠ '(') : IsRaw ['\\', c] where
  not_hidesNext h := ((hidesNext_concat ['\\'] c).1 h).2 hidesNext_backslash
  no_opening := by
    rintro ⟨_ | ⟨d, before⟩, after, heq, -⟩
    · exact hc (List.cons.inj (List.cons.inj heq).2).1
    · have hlength := congrArg List.length heq
      simp only [opening, List.length_append, List.length_cons, List.length_nil] at hlength
      omega
  no_lineBreak := by
    rintro ⟨_ | ⟨d, _ | ⟨d', before⟩⟩, after, heq, hbare⟩
    · cases heq
    · obtain ⟨rfl, -⟩ := List.cons.inj heq
      exact hbare hidesNext_backslash
    · have hlength := congrArg List.length heq
      simp only [List.length_append, List.length_cons, List.length_nil] at hlength
      omega

end ColorLiteral.Text
