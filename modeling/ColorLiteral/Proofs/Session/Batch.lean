import ColorLiteral.Proofs.Surface.Packaged
import ColorLiteral.Session.Expansion

/-!
# Batches

What a text expands to for a surface depends on nothing but the text and the surface: the outcome is
that of the text (`ExpansionOutcome.ofSource`), and the expression is what the surface has for this
outcome (`IsExpansion`). In a session that offers a surface table every text of a batch expands to
that, whatever stands before it and whether the table comes from the files or from memory
(`ends_expandLenient`), so a batch is expanded text by text (`ends_expandBatch`). An unknown surface
stops a batch at its first text (`ends_expandBatch_unknown`).

For the packaged table nothing else can happen, since every color can be written for its surfaces
(`expandBatch_packaged`).
-/

namespace ColorLiteral

/-! ### Expansions of a text -/

/-- The outcome of a text: that of the invocation that it is, or the fault that makes it none. -/
def ExpansionOutcome.ofSource (source : Text) : ExpansionOutcome :=
  match Invocation.parse source with
  | .ok i => i.resolve.outcome
  | .error e => .malformed e

/-- What a surface has for an outcome: the written color, or its fallback. -/
def Surface.expressionOf (surface : Surface) (attributes : Template.Attributes) :
    ExpansionOutcome → Except TemplateFault Text
  | .color color => surface.write attributes color
  | _ => .ok surface.fallback

/-- What a text expands to for a surface, whatever attributes texts have. -/
structure IsExpansion (surface : Surface) (source : Text) (x : Expansion) : Prop where
  source_eq : x.source = source
  outcome_eq : x.outcome = .ofSource source
  expression_eq : ∀ attributes, surface.expressionOf attributes x.outcome = .ok x.expression

theorem exists_isExpansion {surface : Surface} (h : surface.WritesAll) (source : Text) :
    ∃ x, IsExpansion surface source x := by
  obtain ⟨expression, hexpression⟩ : ∃ expression, ∀ attributes,
      surface.expressionOf attributes (.ofSource source) = .ok expression := by
    cases ExpansionOutcome.ofSource source with
    | color color => exact h color
    | failure => exact ⟨_, fun _ => rfl⟩
    | malformed => exact ⟨_, fun _ => rfl⟩
  exact ⟨⟨source, expression, .ofSource source⟩, rfl, rfl, hexpression⟩

theorem forall₂_isExpansion {surface : Surface} {expansion : Text → Expansion}
    (h : ∀ source, IsExpansion surface source (expansion source)) (sources : List Text) :
    List.Forall₂ (IsExpansion surface) sources (sources.map expansion) :=
  List.forall₂_map_right_iff.2 (List.forall₂_same.2 fun source _ => h source)

namespace Expansion

/-- An expansion has a color, a diagnostic or an error, and only one of them. -/
theorem count_facets (x : Expansion) :
    [x.isColor, x.diagnostic?.isSome, x.error?.isSome].count true = 1 := by
  obtain ⟨source, expression, _ | _ | _⟩ := x <;> rfl

theorem rgba_of_not_isColor {x : Expansion} (h : x.isColor = false) : x.rgba = .fallback := by
  obtain ⟨source, expression, _ | _ | _⟩ := x
  · cases h
  · rfl
  · rfl

end Expansion

/-- What an expansion tells besides its expression: the color, the diagnostic and the error. -/
def Expansion.facets (x : Expansion) : Rgba × Option Diagnostic × Option Text :=
  (x.rgba, x.diagnostic?, x.error?)

namespace IsExpansion

variable {surface : Surface} {source : Text} {x : Expansion}

/-- An expansion is fixed by its source and by what the surface has for it. -/
theorem eq_of_expressionOf (h : IsExpansion surface source x) (expression : Text)
    (hexpression : surface.expressionOf .none (.ofSource source) = .ok expression) :
    x = ⟨source, expression, .ofSource source⟩ := by
  obtain ⟨rfl, houtcome, hwritten⟩ := h
  have hsame := houtcome ▸ hwritten .none
  obtain rfl : x.expression = expression := Except.ok.inj (hsame.symm.trans hexpression)
  rw [← houtcome]

theorem outcome_of_error (h : IsExpansion surface source x) {e : ParseError}
    (hparse : Invocation.parse source = .error e) : x.outcome = .malformed e := by
  rw [h.outcome_eq, ExpansionOutcome.ofSource, hparse]

theorem not_isColor_of_error (h : IsExpansion surface source x) {e : ParseError}
    (hparse : Invocation.parse source = .error e) : x.isColor = false := by
  rw [Expansion.isColor, h.outcome_of_error hparse]

theorem expression_of_not_isColor (h : IsExpansion surface source x) (hcolor : x.isColor = false) :
    x.expression = surface.fallback := by
  have hexpression := h.expression_eq .none
  obtain ⟨source, expression, _ | _ | _⟩ := x
  · cases hcolor
  · cases hexpression
    rfl
  · cases hexpression
    rfl

/-- A text that is no invocation expands to the fallback of the surface. -/
theorem eq_of_error (h : IsExpansion surface source x) {e : ParseError}
    (hparse : Invocation.parse source = .error e) : x = ⟨source, surface.fallback, .malformed e⟩ := by
  rw [← h.outcome_of_error hparse,
    ← h.expression_of_not_isColor (h.not_isColor_of_error hparse), ← h.source_eq]

end IsExpansion

/-! ### Expanding in a session that offers a table -/

open Session (IsOffering)

variable {attributes : Template.Attributes} {environment : Environment} {table : SurfaceTable}
  {choice : Option Text} {name : Text} {surface : Surface} {source : Text} {x : Expansion}

section

variable (hname : table.nameFor? environment choice = some name)
  (hsurface : table.surface? name = some surface)

include hname hsurface

theorem ends_writeResolution {resolution : Resolution} {expression : Text}
    (h : surface.expressionOf attributes resolution.outcome = .ok expression) :
    Ends (IsOffering attributes environment table)
      (Loader.writeResolution Task.load choice resolution) (.ok expression) := by
  cases resolution with
  | color color =>
    have hwrite : surface.write attributes color = .ok expression := h
    have hends : Ends (IsOffering attributes environment table)
        (Loader.writeColor Task.load color choice) ((surface.write attributes color).mapError _) :=
      ends_writeColor hname hsurface color
    rw [hwrite] at hends
    exact hends
  | failure =>
    cases h
    exact ends_writeFallback hname hsurface

theorem ends_expandInvocation {i : Invocation} (hparse : Invocation.parse source = .ok i)
    (hx : IsExpansion surface source x) :
    Ends (IsOffering attributes environment table)
      (Loader.expandInvocation Task.load source i choice) (.ok x) := by
  have houtcome : x.outcome = i.resolve.outcome := by
    rw [hx.outcome_eq, ExpansionOutcome.ofSource, hparse]
  have hexpression := hx.expression_eq attributes
  rw [houtcome] at hexpression
  have heq : x = ⟨source, x.expression, i.resolve.outcome⟩ := by
    rw [← houtcome, ← hx.source_eq]
  rw [heq]
  refine (ends_forM_note _).bind ?_
  exact (ends_writeResolution hname hsurface hexpression).bind (.pure _)

/-- A single text that is an invocation expands as it does in a batch. -/
theorem ends_expand {i : Invocation} (hparse : Invocation.parse source = .ok i)
    (hx : IsExpansion surface source x) :
    Ends (IsOffering attributes environment table)
      (Loader.expand Task.load source choice) (.ok x) := by
  unfold Loader.expand
  rw [hparse]
  exact (ends_expandInvocation hname hsurface hparse hx).adapt ExpandError.emission

/-- A text of a batch. -/
theorem ends_expandLenient (hx : IsExpansion surface source x) :
    Ends (IsOffering attributes environment table) (Loader.expandLenient Task.load choice source)
      (.ok x) := by
  unfold Loader.expandLenient
  cases hparse : Invocation.parse source with
  | ok i => exact ends_expandInvocation hname hsurface hparse hx
  | error e =>
    rw [hx.eq_of_error hparse]
    refine (ends_note _).bind ?_
    exact (ends_writeFallback hname hsurface).bind (.pure _)

/-- A batch is expanded text by text. -/
theorem ends_expandBatch {expansion : Text → Expansion}
    (hexpansion : ∀ source, IsExpansion surface source (expansion source)) (sources : List Text) :
    Ends (IsOffering attributes environment table) (Task.expandBatch sources choice)
      (.ok (sources.map expansion)) := by
  refine (Ends.mapM (g := expansion) sources fun source => ?_).bind ?_
  · exact ends_expandLenient hname hsurface (hexpansion source)
  · exact (ends_note _).bind (.pure _)

end

section

variable (hname : table.nameFor? environment choice = some name)
  (hsurface : table.surface? name = none)

include hname hsurface

theorem ends_writeResolution_unknown (resolution : Resolution) :
    Ends (IsOffering attributes environment table)
      (Loader.writeResolution Task.load choice resolution)
      (.error (.unknownSurface name table.names)) := by
  cases resolution with
  | color color => exact ends_writeColor_unknown hname hsurface color
  | failure => exact (ends_surface_unknown hname hsurface).bind_error _

/-- An unknown surface is reported for every text, be it an invocation or not. -/
theorem ends_expandLenient_unknown (source : Text) :
    Ends (IsOffering attributes environment table) (Loader.expandLenient Task.load choice source)
      (.error (.unknownSurface name table.names)) := by
  unfold Loader.expandLenient
  cases Invocation.parse source with
  | ok i =>
    refine (ends_forM_note _).bind ?_
    exact (ends_writeResolution_unknown hname hsurface _).bind_error _
  | error e =>
    refine (ends_note _).bind ?_
    exact ((ends_surface_unknown hname hsurface).bind_error _).bind_error _

/-- An unknown surface stops a batch at its first text. -/
theorem ends_expandBatch_unknown (sources : List Text) :
    Ends (IsOffering attributes environment table) (Task.expandBatch sources choice)
      (if sources = [] then .ok [] else .error (.unknownSurface name table.names)) := by
  cases sources with
  | nil => exact (Ends.pure []).bind ((ends_note _).bind (.pure _))
  | cons source sources =>
    rw [if_neg (List.cons_ne_nil source sources)]
    refine Ends.bind_error _ ?_
    rw [List.mapM_cons]
    exact (ends_expandLenient_unknown hname hsurface source).bind_error _

end

/-! ### Batches with the packaged table -/

/-- What an expansion for a surface tells about its text. -/
structure IsReport (surface : Surface) (source : Text) (x : Expansion) : Prop where
  source_eq : x.source = source
  count_facets : [x.isColor, x.diagnostic?.isSome, x.error?.isSome].count true = 1
  fallback : x.isColor = false → x.rgba = .fallback ∧ x.expression = surface.fallback
  malformed : ∀ e, Invocation.parse source = .error e →
    x.error? = some e.message ∧ x.rgba = .fallback ∧ x.expression = surface.fallback

theorem IsExpansion.isReport (hx : IsExpansion surface source x) : IsReport surface source x where
  source_eq := hx.source_eq
  count_facets := x.count_facets
  fallback hcolor := ⟨Expansion.rgba_of_not_isColor hcolor, hx.expression_of_not_isColor hcolor⟩
  malformed e hparse := by
    have hcolor := hx.not_isColor_of_error hparse
    refine ⟨?_, Expansion.rgba_of_not_isColor hcolor, hx.expression_of_not_isColor hcolor⟩
    rw [Expansion.error?, hx.outcome_of_error hparse]

/-- In every session that offers the packaged table, whatever attributes texts have in it, a batch
is expanded text by text, each text as if it were alone, and two batches one after the other as if
they were one. -/
structure ExpandsEach (environment : Environment) (choice : Option Text)
    (expansion : Text → Expansion) : Prop where
  batch : ∀ attributes s, IsOffering attributes environment .packaged s → ∀ sources,
    (Task.expandBatch sources choice s).1 = .ok (sources.map expansion) ∧
      IsOffering attributes environment .packaged (Task.expandBatch sources choice s).2
  single : ∀ attributes s, IsOffering attributes environment .packaged s → ∀ source i,
    Invocation.parse source = .ok i → (Task.expand source choice s).1 = .ok (expansion source)
  append : ∀ attributes attributes' attributes'' s s' s'',
    IsOffering attributes environment .packaged s →
    IsOffering attributes' environment .packaged s' →
    IsOffering attributes'' environment .packaged s'' → ∀ sources others,
      (Task.expandBatch (sources ++ others) choice s).1 = do
        let xs ← (Task.expandBatch sources choice s').1
        let ys ← (Task.expandBatch others choice s'').1
        return xs ++ ys

theorem outcome_of_expandBatch {s : Session} (hs : s.Offers .packaged) {sources : List Text}
    {xs : List Expansion} (h : (Task.expandBatch sources choice s).1 = .ok xs) :
    xs.map Expansion.outcome = sources.map .ofSource := by
  obtain ⟨name, hname⟩ := SurfaceTable.exists_nameFor_packaged s.host.environment choice
  cases hsurface : SurfaceTable.packaged.surface? name with
  | none =>
    have hend := (ends_expandBatch_unknown hname hsurface sources s ⟨rfl, rfl, hs⟩).1
    rw [h] at hend
    split at hend
    · next hempty =>
      cases hend
      rw [hempty]
      rfl
    · cases hend
  | some surface =>
    choose expansion hexpansion using
      exists_isExpansion (SurfaceTable.writesAll_of_packaged hsurface)
    have hend := (ends_expandBatch hname hsurface hexpansion sources s ⟨rfl, rfl, hs⟩).1
    rw [h] at hend
    cases hend
    rw [List.map_map]
    exact List.map_congr_left fun source _ => (hexpansion source).outcome_eq

/-- Whether two expansions tell the same is a matter of their outcomes. -/
theorem map_facets_eq {xs ys : List Expansion}
    (h : xs.map Expansion.outcome = ys.map Expansion.outcome) :
    xs.map Expansion.facets = ys.map Expansion.facets := by
  have hfacets (zs : List Expansion) : zs.map Expansion.facets =
      (zs.map Expansion.outcome).map fun o => Expansion.facets ⟨[], [], o⟩ := by
    rw [List.map_map]
    rfl
  rw [hfacets, hfacets, h]

/-- With the packaged table, a batch for a known surface is expanded text by text, each text on its
own and as if it were alone. A batch for an unknown surface fails unless it is empty. Batches that
do not fail tell the same for all surfaces. -/
theorem expandBatch_packaged {s : Session} (hs : s.Offers .packaged) (choice : Option Text) :
    ∃ name, SurfaceTable.packaged.nameFor? s.host.environment choice = some name ∧
      (∀ surface, SurfaceTable.packaged.surface? name = some surface →
        ∃ expansion, (∀ source, IsReport surface source (expansion source)) ∧
          ExpandsEach s.host.environment choice expansion) ∧
      (SurfaceTable.packaged.surface? name = none → ∀ sources,
        (Task.expandBatch sources choice s).1 =
          if sources = [] then .ok []
          else .error (.unknownSurface name SurfaceTable.packaged.names)) ∧
      ∀ choice' sources xs xs', (Task.expandBatch sources choice s).1 = .ok xs →
        (Task.expandBatch sources choice' s).1 = .ok xs' →
        xs.map Expansion.facets = xs'.map Expansion.facets := by
  obtain ⟨name, hname⟩ := SurfaceTable.exists_nameFor_packaged s.host.environment choice
  refine ⟨name, hname, fun surface hsurface => ?_, fun hsurface sources => ?_, ?_⟩
  · choose expansion hexpansion using
      exists_isExpansion (SurfaceTable.writesAll_of_packaged hsurface)
    have hbatch {attributes : Template.Attributes} (sources : List Text) :
        Ends (IsOffering attributes s.host.environment .packaged) (Task.expandBatch sources choice)
          (.ok (sources.map expansion)) := ends_expandBatch hname hsurface hexpansion sources
    refine ⟨expansion, fun source => (hexpansion source).isReport, ⟨?_, ?_, ?_⟩⟩
    · exact fun attributes s' hs' sources => hbatch sources s' hs'
    · exact fun attributes s' hs' source i hparse =>
        (ends_expand hname hsurface hparse (hexpansion source) s' hs').1
    · intro _ _ _ s₁ s₂ s₃ hs₁ hs₂ hs₃ sources others
      rw [(hbatch (sources ++ others) s₁ hs₁).1, (hbatch sources s₂ hs₂).1,
        (hbatch others s₃ hs₃).1, List.map_append]
      rfl
  · exact (ends_expandBatch_unknown hname hsurface sources s ⟨rfl, rfl, hs⟩).1
  · intro choice' sources xs xs' hxs hxs'
    refine map_facets_eq ?_
    rw [outcome_of_expandBatch hs hxs, outcome_of_expandBatch hs hxs']

/-- The packaged settings are read from the file, and a surface is chosen. -/
theorem expandBatch_packaged_fresh :
    (Session.start (Config.Host.packaged .empty)).Offers .packaged ∧
      ∃ name, SurfaceTable.packaged.nameFor? .empty (some "css".toList) = some name ∧
        (∀ surface, SurfaceTable.packaged.surface? name = some surface →
          ∃ expansion, (∀ source, IsReport surface source (expansion source)) ∧
            ExpandsEach .empty (some "css".toList) expansion) ∧
        (SurfaceTable.packaged.surface? name = none → ∀ sources,
          (Task.expandBatch sources (some "css".toList)
              (Session.start (Config.Host.packaged .empty))).1 =
            if sources = [] then .ok []
            else .error (.unknownSurface name SurfaceTable.packaged.names)) ∧
        ∀ choice' sources xs xs',
          (Task.expandBatch sources (some "css".toList)
              (Session.start (Config.Host.packaged .empty))).1 = .ok xs →
            (Task.expandBatch sources choice'
                (Session.start (Config.Host.packaged .empty))).1 = .ok xs' →
              xs.map Expansion.facets = xs'.map Expansion.facets :=
  ⟨Session.offers_start_packaged rfl,
    expandBatch_packaged (Session.offers_start_packaged rfl) (some "css".toList)⟩

end ColorLiteral
