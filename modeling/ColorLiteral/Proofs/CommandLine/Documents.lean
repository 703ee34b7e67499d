import ColorLiteral.CommandLine.Run
import ColorLiteral.Proofs.Color.Finite
import ColorLiteral.Proofs.CommandLine.Flags
import ColorLiteral.Proofs.Json.Numerals
import ColorLiteral.Proofs.Json.Printed
import ColorLiteral.Proofs.Session.Batch

/-!
# Printed expansions

A command line that asks for JSON prints one document, and a reader of standard JSON gets from it
one object for each invocation, in their order (`run_json`). What the members of such an object are
is said by `Expansion.Describes`. All texts come back as they were, since strings are escaped where
they have to be. All numbers come back as they were written, since the channels of an expansion are
finite (`IsExpansion.isFinite`), so that their texts are numbers of JSON
(`Expansion.isPrintable_document`). The code of the run can be told from the document.
-/

namespace ColorLiteral

open Json (IsPrintable)

/-! ### Finite channels -/

theorem ExpansionOutcome.isFinite_of_ofSource {source : Text} {color : Rgba}
    (h : ofSource source = .color color) : color.IsFinite := by
  unfold ofSource at h
  split at h
  · next i _ =>
    cases hresolve : i.resolve with
    | color resolved =>
      rw [hresolve] at h
      cases h
      exact Argument.isFinite_of_spells (Argument.resolve_eq_color_iff.1 hresolve)
    | failure =>
      rw [hresolve] at h
      cases h
  · cases h

/-- The channels of an expansion are finite, with a color and without one. -/
theorem IsExpansion.isFinite {surface : Surface} {source : Text} {x : Expansion}
    (hx : IsExpansion surface source x) : x.rgba.IsFinite := by
  rw [Expansion.rgba]
  split
  · next color houtcome =>
    exact ExpansionOutcome.isFinite_of_ofSource (hx.outcome_eq.symm.trans houtcome)
  · exact Rgba.isFinite_fallback

/-! ### Documents -/

namespace Expansion

/-- What a document tells of a diagnostic: the kind also as a part of the identifier, the place by
two offsets, and no hint as a null. -/
inductive DescribesDiagnostic (d : Diagnostic) : Json Text → Prop
  | intro (hint : Json Text) (hsome : ∀ text, d.suggestion = some text → hint = .string text)
    (hnone : d.suggestion = none → hint = .null) :
    DescribesDiagnostic d (.object
      [("id", .string ("ColorMacros." ++ d.kind.name)), ("kind", .string d.kind.name),
        ("message", .string d.message), ("severity", .string d.severity.name),
        ("anchor", .array [.number (Text.ofInt d.anchor.start),
          .number (Text.ofInt d.anchor.stop)]),
        ("suggestion", hint)])

/-- What a document tells of an expansion: the source, the expression and the channels with and
without a color, whether there is one, and otherwise the diagnostic or the message about a text that
is no invocation. -/
inductive Describes : Expansion → Json Text → Prop
  | color (source expression : Text) (c : Rgba) :
    Describes ⟨source, expression, .color c⟩ (.object
      [("source", .string source), ("expression", .string expression),
        ("rgba", .array [.number c.red.toText, .number c.green.toText, .number c.blue.toText,
          .number c.alpha.toText]),
        ("ok", .bool true)])
  | failure (source expression : Text) {d : Diagnostic} {details : Json Text}
    (hdetails : DescribesDiagnostic d details) :
    Describes ⟨source, expression, .failure d⟩ (.object
      [("source", .string source), ("expression", .string expression),
        ("rgba", .array [.number "0.0", .number "0.0", .number "0.0", .number "0.0"]),
        ("ok", .bool false), ("diagnostic", details)])
  | malformed (source expression : Text) (e : ParseError) :
    Describes ⟨source, expression, .malformed e⟩ (.object
      [("source", .string source), ("expression", .string expression),
        ("rgba", .array [.number "0.0", .number "0.0", .number "0.0", .number "0.0"]),
        ("ok", .bool false), ("error", .string e.message)])

theorem describesDiagnostic_diagnosticDocument (d : Diagnostic) :
    DescribesDiagnostic d (diagnosticDocument d) := by
  refine .intro _ (fun text htext => ?_) fun hnone => ?_
  · rw [htext]
  · rw [hnone]

theorem describes_document (x : Expansion) : x.Describes x.document := by
  have hzero : (0 : Binary64).toText = "0.0" := by decide +kernel
  obtain ⟨source, expression, c | d | e⟩ := x
  · exact .color source expression c
  · have hdocument := Describes.failure source expression (describesDiagnostic_diagnosticDocument d)
    rwa [← hzero] at hdocument
  · have hdocument := Describes.malformed source expression e
    rwa [← hzero] at hdocument

theorem isPrintable_integer (n : Int) : IsPrintable (integer n) := .number (isNumeral_ofInt n)

theorem isPrintable_diagnosticDocument (d : Diagnostic) : IsPrintable (diagnosticDocument d) := by
  refine .object ?_ fun member hmember => ?_
  · show ["id".toList, "kind".toList, "message".toList, "severity".toList, "anchor".toList,
      "suggestion".toList].Nodup
    decide
  · simp only [List.mem_cons, List.not_mem_nil, or_false] at hmember
    rcases hmember with rfl | rfl | rfl | rfl | rfl | rfl
    · exact .string _
    · exact .string _
    · exact .string _
    · exact .string _
    · refine .array ?_
      simp [isPrintable_integer]
    · dsimp only
      split
      · exact .string _
      · exact .null

theorem isPrintable_channels {color : Rgba} (h : color.IsFinite) :
    IsPrintable (.array (color.channels.map fun x => .number x.toText)) := by
  refine .array fun item hitem => ?_
  obtain ⟨x, hx, rfl⟩ := List.mem_map.1 hitem
  exact .number (Binary64.isNumeral_toText (h x hx))

/-- The keys of the document of an expansion are different. -/
theorem nodup_keys (d? : Option Diagnostic) (error? : Option Text) :
    (["source".toList, "expression".toList, "rgba".toList, "ok".toList] ++
      d?.toList.map (fun _ => "diagnostic".toList) ++
      error?.toList.map fun _ => "error".toList).Nodup := by
  cases d? <;> cases error? <;> simp only [Option.toList, List.map_cons, List.map_nil] <;> decide

/-- An expansion with finite channels has a document that can be read back. -/
theorem isPrintable_document {x : Expansion} (h : x.rgba.IsFinite) : IsPrintable x.document := by
  refine .object ?_ (List.forall_mem_append.2 ⟨List.forall_mem_append.2 ⟨?_, ?_⟩, ?_⟩)
  · rw [List.map_append, List.map_append, List.map_map, List.map_map]
    exact nodup_keys x.diagnostic? x.error?
  · simp [IsPrintable.string, IsPrintable.bool, isPrintable_channels h]
  · intro member hmember
    obtain ⟨d, -, rfl⟩ := List.mem_map.1 hmember
    exact isPrintable_diagnosticDocument d
  · intro member hmember
    obtain ⟨message, -, rfl⟩ := List.mem_map.1 hmember
    exact .string message

/-- A document says that there is a color. -/
def IsOk (d : Json Text) : Prop :=
  ∃ members, d = .object members ∧ Json.member? "ok".toList members = some (.bool true)

theorem isOk_document_iff {x : Expansion} : IsOk x.document ↔ x.isColor = true := by
  have hmember : ∃ members, x.document = .object members ∧
      Json.member? "ok".toList members = some (.bool x.isColor) := by
    refine ⟨_, rfl, ?_⟩
    simp [Json.member?]
  obtain ⟨members, hdocument, hok⟩ := hmember
  constructor
  · rintro ⟨members', heq, hok'⟩
    obtain rfl : members = members' := Json.object.inj (hdocument.symm.trans heq)
    rw [hok] at hok'
    exact Json.bool.inj (Option.some.inj hok')
  · intro hcolor
    exact ⟨members, hdocument, by rw [hok, hcolor]⟩

end Expansion

/-! ### Runs -/

namespace CommandLine

/-- What is printed is one document, from which a reader of standard JSON gets one description of
each expansion, in order. The code is zero if all of them say that there is a color. -/
structure IsDocumentOf (output : Output) (xs : List Expansion) : Prop where
  read : ∃ items, Json.readStrict Json.writtenNumbers none output.out = .ok (.array items) ∧
    List.Forall₂ Expansion.Describes xs items ∧
    (output.code = 0 ↔ ∀ d ∈ items, Expansion.IsOk d)
  isFinite : ∀ x ∈ xs, x.rgba.IsFinite

theorem code_report_eq_zero_iff {json : Bool} {journal : Text} {xs : List Expansion} :
    (report json journal xs).code = 0 ↔ ∀ d ∈ xs.map Expansion.document, Expansion.IsOk d := by
  have hcode : (report json journal xs).code = if xs.all Expansion.isColor then 0 else 1 := by
    cases json <;> rfl
  have hall : (∀ d ∈ xs.map Expansion.document, Expansion.IsOk d) ↔
      xs.all Expansion.isColor = true := by
    simp only [List.forall_mem_map, Expansion.isOk_document_iff, List.all_eq_true]
  rw [hcode, hall]
  split
  · next hcolors => exact ⟨fun _ => hcolors, fun _ => rfl⟩
  · next hcolors => exact ⟨nofun, fun h => absurd h hcolors⟩

theorem isDocumentOf_report {journal : Text} {xs : List Expansion}
    (hxs : ∀ x ∈ xs, x.rgba.IsFinite) : IsDocumentOf (report true journal xs) xs := by
  have hprintable : IsPrintable (.array (xs.map Expansion.document)) := by
    refine .array fun d hd => ?_
    obtain ⟨x, hx, rfl⟩ := List.mem_map.1 hd
    exact Expansion.isPrintable_document (hxs x hx)
  have hdescribes : List.Forall₂ Expansion.Describes xs (xs.map Expansion.document) :=
    List.forall₂_map_right_iff.2 (List.forall₂_same.2 fun x _ => x.describes_document)
  exact ⟨⟨_, Json.readStrict_print hprintable (.inr rfl), hdescribes, code_report_eq_zero_iff⟩, hxs⟩

variable {host : Config.Host} {name : Text} {surface : Surface}

/-- A batch that is expanded is reported behind what the journal shows. -/
theorem runBatch_eq_report {options : Options} {xs : List Expansion} (time : Text)
    (hxs : (Task.expandBatch (batch options) options.surface (Session.start host)).1 = .ok xs) :
    runBatch host time options = .ok (report options.json ((journalView host time options.debug).text
      (Task.expandBatch (batch options) options.surface (Session.start host)).2.journal) xs) := by
  unfold runBatch
  generalize Task.expandBatch (batch options) options.surface (Session.start host) = ended at hxs
  obtain ⟨outcome, session⟩ := ended
  obtain rfl : outcome = .ok xs := hxs
  rfl

theorem runBatch_json (options : Options) {xs : List Expansion} (time : Text)
    (hjson : options.json = true)
    (hxs : (Task.expandBatch (batch options) options.surface (Session.start host)).1 = .ok xs) :
    ∃ journal, runBatch host time options = .ok (report true journal xs) :=
  ⟨_, by rw [runBatch_eq_report time hxs, hjson]⟩

theorem nameFor?_of_surface? (environment : Environment)
    (hsurface : SurfaceTable.packaged.surface? name = some surface) :
    SurfaceTable.packaged.nameFor? environment (some name) = some name := by
  cases name with
  | nil =>
    have hnone : SurfaceTable.packaged.surface? [] = none := by decide
    cases hnone.symm.trans hsurface
  | cons => rfl

theorem batch_eq_invocations {options : Options} (hne : options.invocations ≠ []) :
    batch options = options.invocations := by
  rw [batch, if_neg (by simpa using hne)]

theorem invocations_chosen (texts : List Text) (flags : List Flag) :
    (Options.chosen texts flags).invocations = texts :=
  invocations_foldl_set flags _

section

variable (before : List Flag) (texts : List Text) (after : List Flag) (time : Text)
  (hoffers : (Session.start host).Offers .packaged)
  (hsurface : SurfaceTable.packaged.surface? name = some surface)
  (hflags : ∀ flag ∈ before ++ after, flag.IsPlain)
  (hjson : (Options.chosen texts (before ++ after)).json = true)
  (hname : (Options.chosen texts (before ++ after)).surface = some name)
  (htexts : ∀ t ∈ texts, t.head? ≠ some '-') (hne : texts ≠ [])

include hoffers hsurface hflags hjson hname htexts hne

/-- A command line that asks for JSON reports the expansions of its invocations. -/
theorem run_eq_report :
    ∃ journal xs,
      run host time (before.flatMap Flag.texts ++ (texts ++ after.flatMap Flag.texts)) =
          .ok (report true journal xs) ∧
        (Task.expandBatch texts (some name) (Session.start host)).1 = .ok xs ∧
        List.Forall₂ (IsExpansion surface) texts xs := by
  choose expansion hexpansion using
    exists_isExpansion (SurfaceTable.writesAll_of_packaged hsurface)
  have hchoice := nameFor?_of_surface? host.environment hsurface
  have hbatch : (Task.expandBatch texts (some name) (Session.start host)).1 =
      .ok (texts.map expansion) :=
    (ends_expandBatch hchoice hsurface hexpansion texts (Session.start host)
      ⟨rfl, rfl, hoffers⟩).1
  have htaken : batch (Options.chosen texts (before ++ after)) = texts := by
    rw [batch, invocations_chosen, if_neg (by simpa using hne)]
  obtain ⟨journal, hrun⟩ := runBatch_json (.chosen texts (before ++ after)) time hjson
    (by rw [htaken, hname]; exact hbatch)
  refine ⟨journal, texts.map expansion, ?_, hbatch, forall₂_isExpansion hexpansion texts⟩
  rw [run, readRequest_between hflags htexts]
  exact hrun

/-- With the packaged surfaces, a command line that asks for JSON about invocations prints one
document that a reader of standard JSON takes, and the reader gets a description of the expansion of
each invocation, in order, with finite channels. The code is zero if all of them have a color. -/
theorem run_json :
    ∃ output xs,
      run host time (before.flatMap Flag.texts ++ (texts ++ after.flatMap Flag.texts)) =
          .ok output ∧
        (Task.expandBatch texts (some name) (Session.start host)).1 = .ok xs ∧
        List.Forall₂ (IsExpansion surface) texts xs ∧ IsDocumentOf output xs := by
  obtain ⟨journal, xs, hrun, hbatch, hxs⟩ :=
    run_eq_report before texts after time hoffers hsurface hflags hjson hname htexts hne
  have hfinite : ∀ x ∈ xs, x.rgba.IsFinite :=
    ((List.forall₂_and_left _ _).1 (hxs.flip.imp fun _ _ hx => ⟨hx.isFinite, hx⟩)).1
  exact ⟨_, xs, hrun, hbatch, hxs, isDocumentOf_report hfinite⟩

end

/-- A color, arguments that give none, and text that is no invocation and has to be escaped, for
style sheets. -/
theorem run_json_escaped :
    ∃ output xs,
      run (Config.Host.packaged .empty) "12:00" ["--surface", "css", "#Color(hex: \"#F80\")",
            "#Color(hxe: \"#F80\")", "#Color(\t\\", "--json"] = .ok output ∧
        (Task.expandBatch ["#Color(hex: \"#F80\")", "#Color(hxe: \"#F80\")", "#Color(\t\\"]
          (some "css") (Session.start (Config.Host.packaged .empty))).1 = .ok xs ∧
        List.Forall₂ (IsExpansion ⟨SurfaceTable.field "hexa", "transparent"⟩)
          ["#Color(hex: \"#F80\")", "#Color(hxe: \"#F80\")", "#Color(\t\\"] xs ∧
        IsDocumentOf output xs ∧ output.code = 1 ∧
        output.out = List.flatMap line
          ["[", "  \x7b",
            "    \"source\": \"#Color(hex: \\\"#F80\\\")\",",
            "    \"expression\": \"#ff8800ff\",",
            "    \"rgba\": [",
            "      1.0,", "      0.5333333333333333,", "      0.0,", "      1.0",
            "    ],",
            "    \"ok\": true",
            "  \x7d,", "  \x7b",
            "    \"source\": \"#Color(hxe: \\\"#F80\\\")\",",
            "    \"expression\": \"transparent\",",
            "    \"rgba\": [", "      0.0,", "      0.0,", "      0.0,", "      0.0", "    ],",
            "    \"ok\": false,",
            "    \"diagnostic\": \x7b",
            "      \"id\": \"ColorMacros.unknown_label\",",
            "      \"kind\": \"unknown_label\",",
            "      \"message\": \"Unknown #Color label 'hxe'. Supported labels: hex, rgb, rgba, " ++
              "hsl, hsla, hsb, hsba.\",",
            "      \"severity\": \"error\",",
            "      \"anchor\": [", "        12,", "        18", "      ],",
            "      \"suggestion\": \"did you mean 'hex'?\"",
            "    \x7d",
            "  \x7d,", "  \x7b",
            "    \"source\": \"#Color(\\t\\\\\",",
            "    \"expression\": \"transparent\",",
            "    \"rgba\": [", "      0.0,", "      0.0,", "      0.0,", "      0.0", "    ],",
            "    \"ok\": false,",
            "    \"error\": \"Expected ')' to close the argument list (at offset 6)\"",
            "  \x7d", "]"] := by
  have hoffers : (Session.start (Config.Host.packaged .empty)).Offers .packaged :=
    Session.offers_start_packaged rfl
  have hflags : ∀ flag ∈ [Flag.surface "css" false, .json], flag.IsPlain := by simp [Flag.IsPlain]
  obtain ⟨output, xs, hrun, hbatch, hxs, hdocument⟩ :=
    run_json [.surface "css" false]
      ["#Color(hex: \"#F80\")", "#Color(hxe: \"#F80\")", "#Color(\t\\"] [.json] "12:00"
      hoffers SurfaceTable.surface?_css hflags rfl rfl (by simp) (by simp)
  obtain ⟨journal, ys, hreport, -, hys⟩ :=
    run_eq_report [.surface "css" false]
      ["#Color(hex: \"#F80\")", "#Color(hxe: \"#F80\")", "#Color(\t\\"] [.json] "12:00"
      hoffers SurfaceTable.surface?_css hflags rfl rfl (by simp) (by simp)
  obtain rfl : output = report true journal ys := Except.ok.inj (hrun.symm.trans hreport)
  refine ⟨_, xs, hrun, hbatch, hxs, hdocument, ?_⟩
  -- the expansions are known from their texts, so only the printing is evaluated
  cases hys with | cons h₁ hys
  cases hys with | cons h₂ hys
  cases hys with | cons h₃ hys
  cases hys
  obtain rfl := h₁.eq_of_expressionOf "#ff8800ff" (by decide +kernel)
  obtain rfl := h₂.eq_of_expressionOf "transparent" (by decide +kernel)
  obtain rfl := h₃.eq_of_expressionOf "transparent" (by decide +kernel)
  constructor
  · show (if List.all _ Expansion.isColor then 0 else 1) = 1
    decide +kernel
  · show line (Json.print _) = _
    decide +kernel

end CommandLine

end ColorLiteral
