import ColorLiteral.Proofs.CommandLine.Documents
import ColorLiteral.Proofs.Session.Warnings
import ColorLiteral.Proofs.Surface.Lines

/-!
# The two streams and the code

A command line that asks neither for JSON nor for a debug log prints the expressions of the colors
on one stream (`Expansion.printed?`). On the other one it prints the failures
(`Expansion.reported?`), behind the warnings about the texts that are no invocations. The code, the
second stream and the expansions tell the same: whether every invocation has a color
(`run_streams`).
-/

namespace ColorLiteral

/-! ### Expansions -/

namespace Expansion

/-- What is printed of an invocation with a color: its expression. -/
def printed? (x : Expansion) : Option Text :=
  match x.outcome with
  | .color _ => some x.expression
  | .failure _ | .malformed _ => none

/-- What is reported of an invocation without a color: its diagnostic under its source, or, for a
text that is no invocation, the message about it under the text. -/
def reported? (x : Expansion) : Option Text :=
  match x.outcome with
  | .color _ => none
  | .failure d => some (d.render x.source)
  | .malformed e => some (x.source ++ "\nerror: " ++ e.message)

theorem printed?_eq (x : Expansion) : x.printed? = if x.isColor then some x.render else none := by
  obtain ⟨source, expression, _ | _ | _⟩ := x <;> rfl

theorem reported?_eq (x : Expansion) :
    x.reported? = if !x.isColor then some x.render else none := by
  obtain ⟨source, expression, _ | _ | _⟩ := x <;> rfl

theorem isColor_iff {x : Expansion} : x.isColor = true ↔ ∃ c, x.outcome = .color c := by
  obtain ⟨source, expression, _ | _ | _⟩ := x <;> simp [isColor]

theorem reported?_eq_none_iff {x : Expansion} : x.reported? = none ↔ ∃ c, x.outcome = .color c := by
  obtain ⟨source, expression, _ | _ | _⟩ := x <;> simp [reported?]

end Expansion

theorem IsExpansion.isLine_expression {name source : Text} {surface : Surface} {x : Expansion}
    (hx : IsExpansion surface source x)
    (hsurface : SurfaceTable.packaged.surface? name = some surface) {c : Rgba}
    (hcolor : x.outcome = .color c) : x.expression.IsLine := by
  have hexpression := hx.expression_eq .none
  rw [hcolor] at hexpression
  exact SurfaceTable.isLine_of_write hsurface hexpression

namespace CommandLine

variable {host : Config.Host} {texts : List Text} {xs : List Expansion} {output : Output}

/-! ### Reports -/

/-- What is printed of the expansions of some texts. -/
structure PrintsApart (texts : List Text) (xs : List Expansion) (output : Output) : Prop where
  out_eq : output.out = (xs.filterMap Expansion.printed?).flatMap line
  err_eq : output.err = (texts.filterMap warning?).flatMap line ++
    (xs.filterMap Expansion.reported?).flatMap line
  isLine_expression : ∀ x ∈ xs, ∀ c, x.outcome = .color c → x.expression.IsLine
  isLine_warning : ∀ warning ∈ texts.filterMap warning?, warning.IsLine
  code_eq_zero_iff : output.code = 0 ↔ output.err = []
  err_eq_nil_iff : output.err = [] ↔ ∀ x ∈ xs, ∃ c, x.outcome = .color c
  code_eq_one : output.code ≠ 0 → output.code = 1

theorem line_ne_nil (t : Text) : line t ≠ [] := List.append_ne_nil_of_right_ne_nil _ (by simp)

theorem flatMap_line_eq_nil_iff {lines : List Text} : lines.flatMap line = [] ↔ lines = [] := by
  cases lines with
  | nil => simp
  | cons first lines => simp [line_ne_nil]

/-- Lines are chosen in one step or in two. -/
theorem flatMap_line_filter {p : Expansion → Bool} {shown? : Expansion → Option Text}
    (h : ∀ x, shown? x = if p x then some x.render else none) (xs : List Expansion) :
    ((xs.filter p).flatMap fun x => line x.render) = (xs.filterMap shown?).flatMap line := by
  induction xs with
  | nil => rfl
  | cons x xs ih =>
    rw [List.filter_cons, List.filterMap_cons, h x]
    cases p x
    · exact ih
    · exact congrArg (line x.render ++ ·) ih

theorem report_plain (journal : Text) (xs : List Expansion) :
    report false journal xs =
      ⟨if xs.all Expansion.isColor then 0 else 1, (xs.filterMap Expansion.printed?).flatMap line,
        journal ++ (xs.filterMap Expansion.reported?).flatMap line⟩ := by
  rw [report, List.partition_eq_filter_filter,
    ← flatMap_line_filter Expansion.printed?_eq, ← flatMap_line_filter Expansion.reported?_eq]
  rfl

section

variable {name : Text} {surface : Surface} {expansion : Text → Expansion}
  (hsurface : SurfaceTable.packaged.surface? name = some surface)
  (hexpansion : ∀ source, IsExpansion surface source (expansion source))

include hexpansion

/-- There is no warning about a text that has a color. -/
theorem filterMap_warning?_eq_nil (h : ∀ x ∈ texts.map expansion, ∃ c, x.outcome = .color c) :
    texts.filterMap warning? = [] := by
  rw [List.filterMap_eq_nil_iff]
  intro source hmem
  obtain ⟨c, hcolor⟩ := h _ (List.mem_map_of_mem hmem)
  unfold warning?
  split
  · next e hparse => cases hcolor.symm.trans ((hexpansion source).outcome_of_error hparse)
  · rfl

include hsurface

/-- The expansions of a batch, reported behind the warnings. -/
theorem printsApart_report (texts : List Text) :
    PrintsApart texts (texts.map expansion)
      (report false ((texts.filterMap warning?).flatMap line) (texts.map expansion)) := by
  rw [report_plain]
  -- the code and the expansions are compared with the second stream, not with each other
  have hnil : (texts.filterMap warning?).flatMap line ++
      ((texts.map expansion).filterMap Expansion.reported?).flatMap line = [] ↔
        ∀ x ∈ texts.map expansion, ∃ c, x.outcome = .color c := by
    simp only [List.append_eq_nil_iff, flatMap_line_eq_nil_iff]
    rw [List.filterMap_eq_nil_iff (f := Expansion.reported?)]
    simp only [Expansion.reported?_eq_none_iff]
    exact ⟨And.right, fun hcolors => ⟨filterMap_warning?_eq_nil hexpansion hcolors, hcolors⟩⟩
  refine ⟨rfl, rfl, ?_, ?_, ?_, hnil, ?_⟩
  · intro x hx c hcolor
    obtain ⟨source, -, rfl⟩ := List.mem_map.1 hx
    exact (hexpansion source).isLine_expression hsurface hcolor
  · intro warning hwarning
    obtain ⟨source, -, hsource⟩ := List.mem_filterMap.1 hwarning
    exact isLine_of_warning? hsource
  · rw [hnil]
    simp only [← Expansion.isColor_iff, ← List.all_eq_true]
    split <;> simp_all
  · dsimp only
    split <;> simp

end

/-! ### Runs -/

theorem showsWarnings_journalView {time : Text}
    (htopics : host.environment Environment.debugTopics = none) :
    (journalView host time false).ShowsWarnings where
  least_eq := rfl
  selected_eq := by
    rw [journalView, htopics]
    rfl

section

variable {options : Options} (hoffers : (Session.start host).Offers .packaged)
  (htopics : host.environment Environment.debugTopics = none)
  (hjson : options.json = false) (hdebug : options.debug = false)
  (hne : options.invocations ≠ [])

include hoffers htopics hjson hdebug hne

/-- A batch for a known surface. -/
theorem runBatch_known {name : Text} {surface : Surface} (time : Text)
    (hname : SurfaceTable.packaged.nameFor? host.environment options.surface = some name)
    (hsurface : SurfaceTable.packaged.surface? name = some surface) :
    ∃ output xs, runBatch host time options = .ok output ∧
      (Task.expandBatch options.invocations options.surface (Session.start host)).1 = .ok xs ∧
      List.Forall₂ (IsExpansion surface) options.invocations xs ∧
      PrintsApart options.invocations xs output := by
  choose expansion hexpansion using
    exists_isExpansion (SurfaceTable.writesAll_of_packaged hsurface)
  obtain ⟨hbatch, -, hshown⟩ := shows_expandBatch (showsWarnings_journalView htopics) hname hsurface
    hexpansion options.invocations (Session.start host) ⟨rfl, rfl, hoffers⟩
  have htaken := batch_eq_invocations hne
  have hrun := runBatch_eq_report time (htaken ▸ hbatch)
  rw [htaken, hjson, hdebug, hshown] at hrun
  exact ⟨_, _, hrun, hbatch, forall₂_isExpansion hexpansion options.invocations,
    printsApart_report hsurface hexpansion options.invocations⟩

end

/-- A batch for an unknown surface prints no expression. -/
theorem runBatch_unknown {options : Options} {name : Text} (time : Text)
    (hoffers : (Session.start host).Offers .packaged) (hne : options.invocations ≠ [])
    (hname : SurfaceTable.packaged.nameFor? host.environment options.surface = some name)
    (hsurface : SurfaceTable.packaged.surface? name = none) :
    ∃ output, runBatch host time options = .ok output ∧ output.out = [] ∧ output.code = 1 := by
  have hbatch := (ends_expandBatch_unknown hname hsurface (batch options) (Session.start host)
    ⟨rfl, rfl, hoffers⟩).1
  rw [if_neg (by rwa [batch_eq_invocations hne])] at hbatch
  unfold runBatch
  generalize Task.expandBatch (batch options) options.surface (Session.start host) = ended at hbatch
  obtain ⟨outcome, session⟩ := ended
  obtain rfl : outcome = .error (.unknownSurface name SurfaceTable.packaged.names) := hbatch
  exact ⟨_, rfl, rfl, rfl⟩

/-- A flag names a surface, and is taken as it is written. -/
def Flag.NamesSurface (flag : Flag) : Prop :=
  flag.IsTaken ∧ ∃ name joined, flag = .surface name joined

theorem foldl_set_of_namesSurface {flags : List Flag} (hflags : ∀ flag ∈ flags, flag.NamesSurface)
    (o : Options) :
    (flags.foldl Flag.set o).json = o.json ∧ (flags.foldl Flag.set o).debug = o.debug := by
  induction flags generalizing o with
  | nil => exact ⟨rfl, rfl⟩
  | cons flag flags ih =>
    obtain ⟨⟨-, name, joined, rfl⟩, hothers⟩ := List.forall_mem_cons.1 hflags
    exact ih hothers _

theorem chosen_of_namesSurface (texts : List Text) {flags : List Flag}
    (hflags : ∀ flag ∈ flags, flag.NamesSurface) :
    (Options.chosen texts flags).json = false ∧ (Options.chosen texts flags).debug = false :=
  foldl_set_of_namesSurface hflags _

/-- Without JSON and without a debug log, invocations for a packaged surface give the expressions of
the colors on one stream, one on each line and in order, and on the other one a line of warning for
each text that is no invocation, and then in order what is reported of those without a color. The
code is zero if and only if the second stream is empty, if and only if every invocation has a color;
otherwise it is one. For an unknown surface the first stream is empty, and the code is one. -/
theorem run_streams (before : List Flag) (texts : List Text) (after : List Flag) (time : Text)
    (hoffers : (Session.start host).Offers .packaged)
    (htopics : host.environment Environment.debugTopics = none)
    (hflags : ∀ flag ∈ before ++ after, flag.NamesSurface)
    (htexts : ∀ t ∈ texts, t.head? ≠ some '-') (hne : texts ≠ []) :
    ∃ name output,
      SurfaceTable.packaged.nameFor? host.environment
          (Options.chosen texts (before ++ after)).surface = some name ∧
        run host time (before.flatMap Flag.texts ++ (texts ++ after.flatMap Flag.texts)) =
          .ok output ∧
        (∀ surface, SurfaceTable.packaged.surface? name = some surface →
          ∃ xs, (Task.expandBatch texts (Options.chosen texts (before ++ after)).surface
              (Session.start host)).1 = .ok xs ∧
            List.Forall₂ (IsExpansion surface) texts xs ∧ PrintsApart texts xs output) ∧
        (SurfaceTable.packaged.surface? name = none → output.out = [] ∧ output.code = 1) := by
  obtain ⟨hjson, hdebug⟩ := chosen_of_namesSurface texts hflags
  have htaken := invocations_chosen texts (before ++ after)
  have hread := readRequest_taken (fun flag hflag => (hflags flag hflag).1) htexts
  obtain ⟨name, hname⟩ := SurfaceTable.exists_nameFor_packaged host.environment
    (Options.chosen texts (before ++ after)).surface
  rw [← htaken] at hne
  rw [run, hread]
  cases hsurface : SurfaceTable.packaged.surface? name with
  | none =>
    obtain ⟨output, hrun, hempty⟩ := runBatch_unknown time hoffers hne hname hsurface
    refine ⟨name, output, hname, hrun, fun surface hknown => ?_, fun _ => hempty⟩
    cases hsurface.symm.trans hknown
  | some surface =>
    obtain ⟨output, xs, hrun, hbatch, hxs, hprints⟩ :=
      runBatch_known hoffers htopics hjson hdebug hne time hname hsurface
    rw [htaken] at hbatch hxs hprints
    refine ⟨name, output, hname, hrun, fun surface' hknown => ?_, fun hunknown => ?_⟩
    · obtain rfl : surface = surface' := Option.some.inj (hsurface.symm.trans hknown)
      exact ⟨xs, hbatch, hxs, hprints⟩
    · cases hsurface.symm.trans hunknown

/-- A color, a text that is no invocation, and an invocation without a color. -/
theorem run_streams_mixed :
    ∃ output xs,
      run (Config.Host.packaged .empty) "12:00" ["#Color(hex: \"#F80\")", "#Color(\n",
            "#Color(rgb: 1)", "--surface", "css"] = .ok output ∧
        List.Forall₂ (IsExpansion ⟨SurfaceTable.field "hexa", "transparent"⟩)
          ["#Color(hex: \"#F80\")", "#Color(\n", "#Color(rgb: 1)"] xs ∧
        PrintsApart ["#Color(hex: \"#F80\")", "#Color(\n", "#Color(rgb: 1)"] xs output ∧
        output.code = 1 ∧ output.out = List.flatMap line ["#ff8800ff"] ∧
        output.err = List.flatMap line
          ["WARNING color_macro_expander.expansion.orchestrator: Skipping malformed invocation " ++
              "'#Color(\\n': Expected ')' to close the argument list (at offset 6)",
            "#Color(", "", "error: Expected ')' to close the argument list (at offset 6)",
            "#Color(rgb: 1)",
            "            ┬",
            "            ╰─ 🛑 #Color(rgb:) expects 3 argument(s), but received 1."] := by
  have hoffers : (Session.start (Config.Host.packaged .empty)).Offers .packaged :=
    Session.offers_start_packaged rfl
  obtain ⟨name, output, hname, hrun, hknown, -⟩ :=
    run_streams []
      ["#Color(hex: \"#F80\")", "#Color(\n", "#Color(rgb: 1)"]
      [.surface "css" false] "12:00" hoffers rfl
      (List.forall_mem_singleton.2 ⟨rfl, _, _, rfl⟩) (by simp) (by simp)
  obtain rfl : "css".toList = name := Option.some.inj hname
  obtain ⟨xs, -, hxs, hprints⟩ := hknown _ SurfaceTable.surface?_css
  refine ⟨output, xs, hrun, hxs, hprints, ?_⟩
  -- the streams are told by the expansions, which are known from their texts
  cases hxs with | cons h₁ hxs
  cases hxs with | cons h₂ hxs
  cases hxs with | cons h₃ hxs
  cases hxs
  obtain rfl := h₁.eq_of_expressionOf "#ff8800ff" (by decide +kernel)
  obtain rfl := h₂.eq_of_expressionOf "transparent" (by decide +kernel)
  obtain rfl := h₃.eq_of_expressionOf "transparent" (by decide +kernel)
  refine ⟨hprints.code_eq_one ?_, ?_, ?_⟩
  · rw [Ne, hprints.code_eq_zero_iff, hprints.err_eq]
    decide +kernel
  · rw [hprints.out_eq]
    decide +kernel
  · rw [hprints.err_eq]
    decide +kernel

end CommandLine

end ColorLiteral
