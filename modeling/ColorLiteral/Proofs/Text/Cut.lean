import ColorLiteral.Proofs.Token.Layout

/-!
# Texts cut into pieces

A piece is a span and the text it stands for. `Cut` says that pieces lie one behind the other in a
text and what is left of the text outside of them. From a cut follows all that is said about spans:
each covers its own text (`Cut.textIn_eq`), they do not overlap and follow each other
(`Cut.pairwise`), and the characters outside of all of them are those that the cut leaves
(`Cut.outsideFrom_eq`).
-/

namespace ColorLiteral

namespace Span

/-- The part of a text that a span covers. -/
def textIn (source : Text) (s : Span) : Text := source.slice s.start.toNat s.stop.toNat

/-- Whether an offset lies in a span. -/
def covers (s : Span) (offset : Nat) : Bool := s.start ≤ offset && offset < s.stop

end Span

namespace Text

/-- A span, and the text it stands for. -/
abbrev Piece := Span × Text

/-! ### Parts of a text -/

theorem drop_eq_cons {source : Text} {offset : Nat} {c : Char} (h : source[offset]? = some c) :
    source.drop offset = c :: source.drop (offset + 1) := by
  obtain ⟨hlt, rfl⟩ := List.getElem?_eq_some_iff.1 h
  exact List.drop_eq_getElem_cons hlt

theorem slice_eq_of_isPrefix {source t : Text} {start : Nat} (h : t <+: source.drop start) :
    source.slice start (start + t.length) = t := by
  rw [slice, Nat.add_sub_cancel_left]
  exact (List.prefix_iff_eq_take.1 h).symm

/-- What follows at the start of a rest starts a shorter rest. -/
theorem isPrefix_drop_of_append {source s r : Text} {offset : Nat}
    (h : s ++ r <+: source.drop offset) : r <+: source.drop (offset + s.length) := by
  obtain ⟨u, hu⟩ := h
  refine ⟨u, ?_⟩
  rw [← List.drop_drop, ← hu, List.append_assoc, List.drop_left]

/-! ### The outside of spans -/

/-- The characters of a text that no span covers, when the first one has a given offset. -/
def outsideFrom (spans : List Span) : Nat → Text → Text
  | _, [] => []
  | offset, c :: t =>
    if spans.any (·.covers offset) then outsideFrom spans (offset + 1) t
    else c :: outsideFrom spans (offset + 1) t

/-- The characters of a text that no span covers. -/
def outside (source : Text) (spans : List Span) : Text := outsideFrom spans 0 source

theorem outsideFrom_append (spans : List Span) (offset : Nat) (s r : Text) :
    outsideFrom spans offset (s ++ r) =
      outsideFrom spans offset s ++ outsideFrom spans (offset + s.length) r := by
  induction s generalizing offset with
  | nil => rfl
  | cons c s ih =>
    have hoffset : offset + 1 + s.length = offset + (c :: s).length := by
      rw [List.length_cons]; omega
    simp only [List.cons_append, outsideFrom, ih, hoffset]
    split <;> rfl

/-- In front of all spans nothing is covered. -/
theorem outsideFrom_eq_self {spans : List Span} {offset : Nat} {t : Text}
    (h : ∀ s ∈ spans, ((offset + t.length : Nat) : Int) ≤ s.start) :
    outsideFrom spans offset t = t := by
  induction t generalizing offset with
  | nil => rfl
  | cons c t ih =>
    simp only [List.length_cons] at h
    have hno : spans.any (·.covers offset) = false := by
      rw [List.any_eq_false]
      intro s hs
      have := h s hs
      simp only [Span.covers, Bool.and_eq_true, decide_eq_true_eq]
      omega
    rw [outsideFrom, hno, if_neg Bool.false_ne_true]
    rw [ih fun s hs => by have := h s hs; omega]

/-- Inside of a span everything is covered. -/
theorem outsideFrom_eq_nil {spans : List Span} {s : Span} (hs : s ∈ spans) {offset : Nat}
    {t : Text} (hstart : s.start ≤ offset) (hstop : ((offset + t.length : Nat) : Int) ≤ s.stop) :
    outsideFrom spans offset t = [] := by
  induction t generalizing offset with
  | nil => rfl
  | cons c t ih =>
    simp only [List.length_cons] at hstop
    have hyes : spans.any (·.covers offset) = true := by
      rw [List.any_eq_true]
      refine ⟨s, hs, ?_⟩
      simp only [Span.covers, Bool.and_eq_true, decide_eq_true_eq]
      omega
    rw [outsideFrom, hyes, if_pos rfl]
    exact ih (by omega) (by omega)

/-- A span that ends before a text covers nothing of it. -/
theorem outsideFrom_cons_of_stop_le {s : Span} (spans : List Span) {offset : Nat}
    (hstop : s.stop ≤ offset) (t : Text) :
    outsideFrom (s :: spans) offset t = outsideFrom spans offset t := by
  induction t generalizing offset with
  | nil => rfl
  | cons c t ih =>
    have hno : s.covers offset = false := by
      simp only [Span.covers, Bool.and_eq_false_iff, decide_eq_false_iff_not]
      omega
    rw [outsideFrom, outsideFrom, List.any_cons, hno, Bool.false_or, ih (by omega)]

/-! ### Cuts -/

/-- The pieces lie one behind the other in a text whose first character has the given offset, and
the last text is what lies outside of them. -/
inductive Cut : Nat → Text → List Piece → Text → Prop
  | rest {offset : Nat} {t : Text} : Cut offset t [] t
  | piece {offset : Nat} {gap t behind out : Text} {pieces : List Piece} (hsolid : t.IsSolid)
      (hbehind : Cut (offset + gap.length + t.length) behind pieces out) :
      Cut offset (gap ++ (t ++ behind))
        ((.ofOffsets (offset + gap.length) (offset + gap.length + t.length), t) :: pieces)
        (gap ++ out)

namespace Cut

variable {offset : Nat} {t out : Text} {pieces : List Piece}

theorem gap (gap : Text) (h : Cut (offset + gap.length) t pieces out) :
    Cut offset (gap ++ t) pieces (gap ++ out) := by
  cases h with
  | rest => exact .rest
  | @piece _ gap' t behind out pieces hsolid hbehind =>
    have hlength : offset + gap.length + gap'.length = offset + (gap ++ gap').length := by
      rw [List.length_append]; omega
    rw [hlength] at hbehind ⊢
    have hcut := Cut.piece hsolid hbehind
    rwa [List.append_assoc, List.append_assoc] at hcut

theorem append {s r out' : Text} {pieces' : List Piece} (hs : Cut offset s pieces out)
    (hr : Cut (offset + s.length) r pieces' out') :
    Cut offset (s ++ r) (pieces ++ pieces') (out ++ out') := by
  induction hs with
  | rest => exact hr.gap _
  | @piece offset gap t behind out pieces hsolid _ ih =>
    have hlength : offset + (gap ++ (t ++ behind)).length =
        offset + gap.length + t.length + behind.length := by
      simp only [List.length_append]; omega
    rw [hlength] at hr
    rw [List.append_assoc, List.append_assoc, List.append_assoc, List.cons_append]
    exact .piece hsolid (ih hr)

/-- The pieces lie inside the text and are solid. -/
theorem bounds_of_mem (h : Cut offset t pieces out) {p : Piece} (hp : p ∈ pieces) :
    (offset : Int) ≤ p.1.start ∧ p.1.start < p.1.stop ∧
      p.1.stop ≤ ((offset + t.length : Nat) : Int) ∧ p.2.IsSolid := by
  induction h with
  | rest => cases hp
  | @piece offset gap t behind out pieces hsolid _ ih =>
    have hpos := List.length_pos_iff.2 hsolid.ne_nil
    simp only [List.length_append]
    rcases List.mem_cons.1 hp with rfl | hp
    · simp only [Span.ofOffsets]
      exact ⟨by omega, by omega, by omega, hsolid⟩
    · obtain ⟨h₁, h₂, h₃, h₄⟩ := ih hp
      exact ⟨by omega, h₂, by omega, h₄⟩

/-- Each piece ends before the next one starts. -/
theorem pairwise (h : Cut offset t pieces out) :
    pieces.Pairwise fun p q => p.1.stop ≤ q.1.start := by
  induction h with
  | rest => exact .nil
  | piece _ hbehind ih =>
    refine .cons (fun q hq => ?_) ih
    exact (hbehind.bounds_of_mem hq).1

/-- Each span covers the text of its piece. -/
theorem textIn_eq {source : Text} (h : Cut offset t pieces out) (ht : t <+: source.drop offset)
    {p : Piece} (hp : p ∈ pieces) : p.1.textIn source = p.2 := by
  induction h with
  | rest => cases hp
  | @piece offset gap t behind out pieces _ _ ih =>
    have hpiece := isPrefix_drop_of_append ht
    rcases List.mem_cons.1 hp with rfl | hp
    · exact slice_eq_of_isPrefix ((List.prefix_append _ _).trans hpiece)
    · exact ih (isPrefix_drop_of_append hpiece) hp

/-- What a cut leaves is what lies outside of the spans. -/
theorem outsideFrom_eq (h : Cut offset t pieces out) :
    outsideFrom (pieces.map Prod.fst) offset t = out := by
  induction h with
  | rest => exact outsideFrom_eq_self (by simp)
  | @piece offset gap t behind out pieces hsolid hbehind ih =>
    rw [List.map_cons, outsideFrom_append, outsideFrom_append]
    congr 1
    · apply outsideFrom_eq_self
      intro s hs
      rcases List.mem_cons.1 hs with rfl | hs
      · exact Int.le_refl _
      · obtain ⟨p, hp, rfl⟩ := List.mem_map.1 hs
        have := (hbehind.bounds_of_mem hp).1
        omega
    · rw [outsideFrom_eq_nil (List.mem_cons_self ..) (Int.le_refl _) (Int.le_refl _),
        List.nil_append, outsideFrom_cons_of_stop_le _ (Int.le_refl _), ih]

end Cut

end Text

end ColorLiteral
