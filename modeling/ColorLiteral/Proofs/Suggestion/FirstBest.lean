import ColorLiteral.Proofs.Binary64.Bounded
import ColorLiteral.Proofs.Suggestion.CommonSubsequence
import Mathlib.Algebra.Order.Ring.Unbundled.Rat
import Mathlib.Data.List.Basic

/-!
# What is suggested

For a label that is searched the first of the known texts with the greatest score is suggested, if
this score reaches the cutoff (`suggest?_eq_iff`). The score is the share of a longest common
subsequence (`isScore_score`).

The search goes through the known texts once and keeps the first best of those that it has seen
(`finds_best?`).
-/

namespace ColorLiteral.Suggestion

variable {q c : Text} {known : List Text} {cutoff : Rat} {label : Text}

/-! ### Scores -/

/-- The length of a longest common subsequence, as a share of the lengths of two texts together,
times 100. -/
def IsScore (q c : Text) (r : Rat) : Prop :=
  ∃ n, IsGreatest (commonLengths q c) n ∧ r = 200 * n / (q.length + c.length)

theorem isScore_score (hq : q ≠ []) (c : Text) : IsScore q c (score q c) := by
  refine ⟨commonLength q c, isGreatest_commonLength q c, ?_⟩
  have hsome : (q.isEmpty && c.isEmpty) = false := by simp [hq]
  rw [score, hsome, if_neg Bool.false_ne_true]
  push_cast
  rfl

/-! ### The first best text -/

/-- A text is the first one with the greatest score, and its score reaches the cutoff. -/
def IsFirstBest (q : Text) (cutoff : Rat) (known : List Text) (c : Text) : Prop :=
  cutoff ≤ score q c ∧ ∃ before after, known = before ++ c :: after ∧
    (∀ x ∈ before, score q x < score q c) ∧ ∀ x ∈ after, score q x ≤ score q c

/-- What the search has found among the texts that it has seen. -/
inductive Finds (q : Text) (cutoff : Rat) (known : List Text) : Option Match → Prop
  | nothing (hbelow : ∀ x ∈ known, score q x < cutoff) : Finds q cutoff known none
  | best {c : Text} (hbest : IsFirstBest q cutoff known c) :
      Finds q cutoff known (some ⟨c, score q c⟩)

theorem best?_concat (q : Text) (cutoff : Rat) (known : List Text) (c : Text) :
    best? q cutoff (known ++ [c]) =
      let better : Bool := match best? q cutoff known with
        | none => cutoff ≤ score q c
        | some m => m.score < score q c
      if better then some ⟨c, score q c⟩ else best? q cutoff known := by
  rw [best?, List.foldl_append]
  rfl

theorem IsFirstBest.score_le (h : IsFirstBest q cutoff known c) :
    ∀ x ∈ known, score q x ≤ score q c := by
  obtain ⟨-, before, after, rfl, hbefore, hafter⟩ := h
  intro x hx
  rcases List.mem_append.1 hx with hx | hx
  · exact (hbefore x hx).le
  · rcases List.mem_cons.1 hx with rfl | hx
    · exact le_refl _
    · exact hafter x hx

/-- The search keeps the first best text of those that it has seen. -/
theorem finds_best? (q : Text) (cutoff : Rat) (known : List Text) :
    Finds q cutoff known (best? q cutoff known) := by
  induction known using List.reverseRecOn with
  | nil => exact .nothing (by simp)
  | append_singleton known c ih =>
    rw [best?_concat]
    generalize best? q cutoff known = found at ih
    cases ih with
    | nothing hbelow =>
      by_cases hc : cutoff ≤ score q c
      · simp only [hc, decide_true, if_true]
        exact .best ⟨hc, known, [], rfl, fun x hx => (hbelow x hx).trans_le hc, by simp⟩
      · simp only [hc, decide_false, Bool.false_eq_true, if_false]
        refine .nothing fun x hx => ?_
        rcases List.mem_append.1 hx with hx | hx
        · exact hbelow x hx
        · rw [List.mem_singleton.1 hx]
          exact lt_of_not_ge hc
    | @best m hbest =>
      by_cases hc : score q m < score q c
      · simp only [hc, decide_true, if_true]
        exact .best ⟨hbest.1.trans hc.le, known, [], rfl,
          fun x hx => (hbest.score_le x hx).trans_lt hc, by simp⟩
      · simp only [hc, decide_false, Bool.false_eq_true, if_false]
        obtain ⟨hcutoff, before, after, rfl, hbefore, hafter⟩ := hbest
        refine .best ⟨hcutoff, before, after ++ [c], by simp, hbefore, fun x hx => ?_⟩
        rcases List.mem_append.1 hx with hx | hx
        · exact hafter x hx
        · rw [List.mem_singleton.1 hx]
          exact le_of_not_gt hc

/-! ### Suggestions -/

/-- What is suggested for a label, by its small letters without the blanks around them. -/
inductive Suggests (label : Text) (known : List Text) (cutoff : Rat) : Option Text → Prop
  | notSearched (h : Text.lower (Text.trim label) = [] ∨ known = [] ∨
      Text.lower (Text.trim label) ∈ known) : Suggests label known cutoff none
  | below (hquery : Text.lower (Text.trim label) ≠ []) (hnew : Text.lower (Text.trim label) ∉ known)
      (hbelow : ∀ x ∈ known, score (Text.lower (Text.trim label)) x < cutoff) :
      Suggests label known cutoff none
  | best {c : Text} (hquery : Text.lower (Text.trim label) ≠ [])
      (hnew : Text.lower (Text.trim label) ∉ known)
      (hbest : IsFirstBest (Text.lower (Text.trim label)) cutoff known c) :
      Suggests label known cutoff (some c)

theorem isSearched_iff :
    isSearched label known = true ↔ Text.lower (Text.trim label) ≠ [] ∧ known ≠ [] ∧
      Text.lower (Text.trim label) ∉ known := by
  simp [isSearched, query, and_assoc]

theorem suggests_suggest? (label : Text) (known : List Text) (cutoff : Rat) :
    Suggests label known cutoff (suggest? label known cutoff) := by
  rw [suggest?, match?, query]
  split
  · next h =>
    obtain ⟨hquery, -, hnew⟩ := isSearched_iff.1 h
    have hfinds := finds_best? (Text.lower (Text.trim label)) cutoff known
    generalize best? (Text.lower (Text.trim label)) cutoff known = found at hfinds
    cases hfinds with
    | nothing hbelow => exact .below hquery hnew hbelow
    | best hbest => exact .best hquery hnew hbest
  · next h =>
    refine .notSearched ?_
    rw [isSearched_iff] at h
    tauto

theorem eq_of_first_best {before after after' : List Text} {c' : Text}
    (heq : c :: after = before ++ c' :: after') (hbefore : ∀ x ∈ before, score q x < score q c')
    (hafter : ∀ x ∈ after, score q x ≤ score q c) : c = c' := by
  cases before with
  | nil => exact (List.cons.inj heq).1
  | cons first before =>
    obtain ⟨rfl, rfl⟩ := List.cons.inj heq
    exact absurd (hbefore c List.mem_cons_self) (hafter c' (by simp)).not_gt

/-- Of two places where a first best text stands, neither is in front of the other. -/
theorem IsFirstBest.unique {c' : Text} (h : IsFirstBest q cutoff known c)
    (h' : IsFirstBest q cutoff known c') : c = c' := by
  obtain ⟨-, before, after, rfl, hbefore, hafter⟩ := h
  obtain ⟨-, before', after', heq, hbefore', hafter'⟩ := h'
  rcases List.append_eq_append_iff.1 heq with ⟨between, rfl, hrest⟩ | ⟨between, rfl, hrest⟩
  · exact eq_of_first_best hrest (fun x hx => hbefore' x (List.mem_append_right _ hx)) hafter
  · exact (eq_of_first_best hrest
      (fun x hx => hbefore x (List.mem_append_right _ hx)) hafter').symm

theorem IsFirstBest.mem (h : IsFirstBest q cutoff known c) : c ∈ known := by
  obtain ⟨-, before, after, rfl, -⟩ := h
  simp

theorem Suggests.eq_some {result : Option Text} (h : Suggests label known cutoff result)
    (hquery : Text.lower (Text.trim label) ≠ []) (hnew : Text.lower (Text.trim label) ∉ known)
    (hbest : IsFirstBest (Text.lower (Text.trim label)) cutoff known c) : result = some c := by
  cases h with
  | notSearched hno =>
    rcases hno with hno | rfl | hno
    · exact absurd hno hquery
    · cases hbest.mem
    · exact absurd hno hnew
  | below _ _ hbelow => exact absurd hbest.1 (hbelow c hbest.mem).not_ge
  | best _ _ hbest' => rw [hbest'.unique hbest]

theorem Suggests.unique {result result' : Option Text} (h : Suggests label known cutoff result)
    (h' : Suggests label known cutoff result') : result = result' := by
  cases result with
  | some c => cases h with | best hquery hnew hbest => exact (h'.eq_some hquery hnew hbest).symm
  | none =>
    cases result' with
    | some c => cases h' with | best hquery hnew hbest => exact h.eq_some hquery hnew hbest
    | none => rfl

/-! ### Cutoffs as binary64 numbers -/

/-- A cutoff from 0 to 100 counts with its exact value. -/
theorem suggestAbove_of_le {x : Binary64} (hlow : 0 ≤ x) (hhigh : x ≤ 100) (label : Text)
    (known : List Text) : ∃ negative magnitude, x = .finite negative magnitude ∧
      suggestAbove label known x = .ok (suggest? label known (exactValue negative magnitude)) := by
  have hfinite := Binary64.isFinite_of_le (by decide) hlow hhigh
  cases x with
  | nan | infinite => cases hfinite
  | finite negative magnitude =>
    have hcutoff : ¬ (Binary64.finite negative magnitude < 0 ∨
        100 < Binary64.finite negative magnitude) :=
      not_or.2 ⟨Binary64.not_lt_of_le hlow, Binary64.not_lt_of_le hhigh⟩
    refine ⟨negative, magnitude, rfl, ?_⟩
    rw [suggestAbove, if_neg hcutoff]
    split
    · rfl
    · next h => rw [suggest?, match?, if_neg h, Option.map_none]

/-- What is suggested for a label, and which scores decide. -/
theorem suggest?_eq_iff (label : Text) (known : List Text) :
    (∀ cutoff result, suggest? label known cutoff = result ↔ Suggests label known cutoff result) ∧
    (Text.lower (Text.trim label) ≠ [] → ∀ c,
      IsScore (Text.lower (Text.trim label)) c (score (Text.lower (Text.trim label)) c)) ∧
    ∀ x : Binary64, 0 ≤ x → x ≤ 100 → ∃ negative magnitude, x = .finite negative magnitude ∧
      suggestAbove label known x = .ok (suggest? label known (exactValue negative magnitude)) := by
  refine ⟨fun cutoff result => ⟨?_, ?_⟩, isScore_score, ?_⟩
  · rintro rfl
    exact suggests_suggest? label known cutoff
  · exact (suggests_suggest? label known cutoff).unique
  · exact fun x hlow hhigh => suggestAbove_of_le hlow hhigh label known

/-- Two known texts share two of three letters with the label, and the first of them is suggested if
two thirds are enough. Nothing is suggested for the label in capitals once it is known itself. -/
theorem suggest?_eq_iff_tie :
    suggest? " HLS\t".toList ["rgb".toList, "hsb".toList, "hsl".toList] 60 = some "hsb".toList ∧
    suggest? " HLS\t".toList ["rgb".toList, "hsb".toList, "hsl".toList] 67 = none ∧
    suggest? " HLS\t".toList ["rgb".toList, "hls".toList] 60 = none ∧
    IsScore "hls".toList "hsb".toList (200 / 3) ∧
    suggestAbove " HLS\t".toList ["rgb".toList, "hsb".toList, "hsl".toList] 60 =
      .ok (some "hsb".toList) := by
  have hlower : Text.lower (Text.trim " HLS\t".toList) = "hls".toList := by decide +kernel
  have hnew : "hls".toList ∉ ["rgb".toList, "hsb".toList, "hsl".toList] := by decide
  have hbest : IsFirstBest "hls".toList 60 ["rgb".toList, "hsb".toList, "hsl".toList]
      "hsb".toList :=
    ⟨by decide +kernel, ["rgb".toList], ["hsl".toList], rfl, by decide +kernel, by decide +kernel⟩
  have hbelow : ∀ x ∈ ["rgb".toList, "hsb".toList, "hsl".toList], score "hls".toList x < 67 := by
    decide +kernel
  have hscore : score "hls".toList "hsb".toList = 200 / 3 := by decide +kernel
  obtain ⟨hsuggest, hshare, habove⟩ :=
    suggest?_eq_iff " HLS\t".toList ["rgb".toList, "hsb".toList, "hsl".toList]
  rw [hlower] at hshare
  have hfound := (hsuggest 60 _).2 (.best (by rw [hlower]; decide) (by rwa [hlower])
    (by rwa [hlower]))
  refine ⟨hfound, (hsuggest 67 none).2 (.below (by rw [hlower]; decide) (by rwa [hlower])
    (by rwa [hlower])), ?_, hscore ▸ hshare (by decide) _, ?_⟩
  · refine ((suggest?_eq_iff _ _).1 60 none).2 (.notSearched (.inr (.inr ?_)))
    rw [hlower]
    decide
  · obtain ⟨negative, magnitude, hcutoff, hresult⟩ :=
      habove 60 (by decide +kernel) (by decide +kernel)
    have hsixty : (60 : Binary64) = _ := Binary64.ofNat_eq (n := 60) (by decide)
    obtain ⟨rfl, rfl⟩ := Binary64.finite.inj (hsixty.symm.trans hcutoff)
    have hexact : exactValue false ⟨60 * unitsPerOne, Binary64.fitsSignificand_whole (by decide),
        Binary64.whole_lt_unitLimit (by decide)⟩ = 60 := by decide +kernel
    rw [hresult, hexact, hfound]

end ColorLiteral.Suggestion
