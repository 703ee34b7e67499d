import ColorLiteral.Proofs.Invocation.Wording
import ColorLiteral.Proofs.Session.Batch

/-!
# Warnings of a batch

One event alone is a warning: that a text of a batch is no invocation. All others are less important
(`Event.IsQuiet`), and work with surfaces notes only such events (`Task.IsQuiet`, with a rule for
each way to compose tasks). So a view that shows nothing but warnings has one line for each text of
a batch that is no invocation, in their order (`shows_expandBatch`).
-/

namespace ColorLiteral

/-! ### Events that are no warnings -/

namespace Event

/-- An event gives no warning. -/
def IsQuiet (event : Event) : Prop := ∀ record ∈ event.record?, record.level ≠ .warning

theorem isQuiet_iff (event : Event) :
    event.IsQuiet ↔ ∀ source error, event ≠ .skipped source error := by
  cases event <;> simp [IsQuiet, record?]

theorem isQuiet_loadEvent (r : Config.Request) (loaded : Config.Loaded) :
    (Task.loadEvent r loaded).IsQuiet := by
  rw [isQuiet_iff, Task.loadEvent]
  split <;> simp

end Event

namespace Argument

theorem isQuiet_labelEvents (arguments : List Argument) :
    ∀ event ∈ labelEvents arguments, event.IsQuiet := by
  simp only [Event.isQuiet_iff, labelEvents]
  split
  · split
    · split <;> simp
    · simp
  · simp

theorem isQuiet_hexEvents (literal : Expr) : ∀ event ∈ hexEvents literal, event.IsQuiet := by
  simp only [Event.isQuiet_iff, hexEvents]
  split
  · split <;> simp
  · simp
  · simp

theorem isQuiet_resultEvent (variant : Except ColorError Variant) (resolution : Resolution) :
    ∀ event ∈ resultEvent variant resolution, event.IsQuiet := by
  simp only [Event.isQuiet_iff, resultEvent]
  split <;> simp +contextual

end Argument

theorem Invocation.isQuiet_events (i : Invocation) : ∀ event ∈ i.events, event.IsQuiet := by
  refine List.forall_mem_cons.2 ⟨by simp [Event.isQuiet_iff], ?_⟩
  refine List.forall_mem_append.2 ⟨List.forall_mem_append.2 ⟨?_, ?_⟩, ?_⟩
  · exact Argument.isQuiet_labelEvents _
  · split
    · exact Argument.isQuiet_hexEvents _
    · simp
  · exact Argument.isQuiet_resultEvent _ _

/-! ### Work without a warning -/

variable {ε ε' α β : Type}

/-- Whatever the session, what a task adds to its journal gives no warning. -/
def Task.IsQuiet (task : Task ε α) : Prop :=
  ∀ s, ∃ events, (task s).2.journal = s.journal ++ events ∧ ∀ event ∈ events, event.IsQuiet

namespace Task.IsQuiet

variable {task : Task ε α}

theorem of_journal_eq (h : ∀ s, (task s).2.journal = s.journal) : task.IsQuiet :=
  fun s => ⟨[], by rw [h, List.append_nil], List.forall_mem_nil _⟩

theorem pure (a : α) : (pure a : Task ε α).IsQuiet := of_journal_eq fun _ => rfl

theorem throw (e : ε) : (throw e : Task ε α).IsQuiet := of_journal_eq fun _ => rfl

theorem ofExcept (outcome : Except ε α) : (Task.ofExcept outcome).IsQuiet :=
  of_journal_eq fun _ => rfl

theorem note {event : Event} (h : event.IsQuiet) : (Task.note event : Task ε Unit).IsQuiet :=
  fun _ => ⟨[event], rfl, List.forall_mem_singleton.2 h⟩

theorem get_bind {next : Session → Task ε β} (hnext : ∀ s, (next s).IsQuiet) :
    (get >>= next).IsQuiet :=
  fun s => hnext s s

theorem bind {next : α → Task ε β} (htask : task.IsQuiet) (hnext : ∀ a, (next a).IsQuiet) :
    (task >>= next).IsQuiet := by
  intro s
  obtain ⟨events, hevents, hquiet⟩ := htask s
  rw [Task.bind_apply]
  rcases htask : task s with ⟨_ | a, s'⟩
  · exact ⟨events, by rw [← hevents, htask], hquiet⟩
  · obtain ⟨later, hlater, hquiet'⟩ := hnext a s'
    rw [htask] at hevents
    refine ⟨events ++ later, ?_, List.forall_mem_append.2 ⟨hquiet, hquiet'⟩⟩
    rw [← List.append_assoc, ← hevents]
    exact hlater

theorem adapt (explain : ε → ε') (htask : task.IsQuiet) :
    Task.IsQuiet (task.adapt explain : Task ε' α) :=
  htask

theorem forM_note {events : List Event} (h : ∀ event ∈ events, event.IsQuiet) :
    (events.forM Task.note : Task ε Unit).IsQuiet := by
  induction events with
  | nil => exact pure ()
  | cons event events ih =>
    obtain ⟨hevent, hevents⟩ := List.forall_mem_cons.1 h
    exact (note hevent).bind fun _ => ih hevents

theorem load (r : Config.Request) : (Task.load r).IsQuiet := by
  intro s
  rw [Task.load_apply]
  rcases r.load s.host s.cache with ⟨_ | loaded, cache⟩
  · exact ⟨[], (List.append_nil _).symm, List.forall_mem_nil _⟩
  · exact ⟨[_], rfl, List.forall_mem_singleton.2 (Event.isQuiet_loadEvent r loaded)⟩

/-! ### Work with surfaces -/

theorem surfaceTable : (Loader.surfaceTable Task.load).IsQuiet :=
  get_bind fun _ => ((load _).adapt _).bind fun _ => (ofExcept _).adapt _

theorem preferredSurface : (Loader.preferredSurface Task.load).IsQuiet := by
  refine get_bind fun s => ?_
  dsimp only
  split
  · refine surfaceTable.bind fun table => ?_
    cases table.preferredName? with
    | none => exact throw _
    | some name => exact pure name
  · exact pure _

theorem surfaceName (choice : Option Text) : (Loader.surfaceName Task.load choice).IsQuiet := by
  unfold Loader.surfaceName
  split
  · exact pure _
  · exact preferredSurface

theorem surface (choice : Option Text) : (Loader.surface Task.load choice).IsQuiet := by
  refine (surfaceName choice).bind fun name => surfaceTable.bind fun table => ?_
  cases table.surface? name with
  | none => exact throw _
  | some surface => exact pure surface

theorem writeFallback (choice : Option Text) : (Loader.writeFallback Task.load choice).IsQuiet :=
  (surface choice).bind fun _ => pure _

theorem writeResolution (choice : Option Text) (resolution : Resolution) :
    (Loader.writeResolution Task.load choice resolution).IsQuiet := by
  cases resolution with
  | failure => exact writeFallback choice
  | color color =>
    refine get_bind fun s => (surface choice).bind fun surface => ?_
    cases surface.write s.host.attributes color with
    | ok expression =>
      have hquiet : (Event.emitted expression).IsQuiet := by simp [Event.isQuiet_iff]
      exact (note hquiet).bind fun _ => pure expression
    | error fault => exact throw _

theorem expandInvocation (source : Text) (i : Invocation) (choice : Option Text) :
    (Loader.expandInvocation Task.load source i choice).IsQuiet :=
  (forM_note i.isQuiet_events).bind fun _ =>
    (writeResolution choice i.resolve).bind fun _ => pure _

end Task.IsQuiet

/-! ### Views of warnings -/

/-- A view shows nothing but warnings. -/
structure JournalView.ShowsWarnings (view : JournalView) : Prop where
  least_eq : view.least = .warning
  selected_eq : view.topics.selected = []

/-- The warning that a text is no invocation. -/
def ParseError.warning (source : Text) (e : ParseError) : Text :=
  "WARNING color_macro_expander.expansion.orchestrator: " ++
    ("Skipping malformed invocation " ++ Text.quoted source ++ ": " ++ e.message)

theorem LogRecord.line_warning (message : Text) :
    LogRecord.line ⟨.warning, "orchestrator", message⟩ =
      "WARNING color_macro_expander.expansion.orchestrator: " ++ message ++ ['\n'] := by
  have hstart : LogLevel.warning.name ++ " color_macro_expander.expansion.".toList ++
      "orchestrator".toList ++ ": ".toList =
        "WARNING color_macro_expander.expansion.orchestrator: ".toList := by decide
  exact congrArg (· ++ message ++ ['\n']) hstart

/-- The warning about a text, if it is no invocation. -/
def warning? (source : Text) : Option Text :=
  match Invocation.parse source with
  | .error e => some (e.warning source)
  | .ok _ => none

/-- A warning is on one line, whatever the text. -/
theorem isLine_of_warning? {source warning : Text} (h : warning? source = some warning) :
    warning.IsLine := by
  unfold warning? at h
  split at h
  · next e hparse =>
    cases h
    have hstart : Text.IsLine "WARNING color_macro_expander.expansion.orchestrator: ".toList := by
      decide
    have hskipping : Text.IsLine "Skipping malformed invocation ".toList := by decide
    have hquoted := hskipping.append (Text.isLine_quoted source)
    exact hstart.append ((hquoted.append (by decide)).append
      (Invocation.isLine_message_of_parse hparse))
  · cases h

namespace JournalView

variable {view : JournalView}

theorem ShowsWarnings.line_eq_nil (h : view.ShowsWarnings) (time topic level message : Text) :
    view.topics.line time topic level message = [] := by
  simp [Topics.line, Topics.selects, h.selected_eq]

theorem ShowsWarnings.eventText_of_isQuiet (h : view.ShowsWarnings) {event : Event}
    (hevent : event.IsQuiet) : view.eventText event = [] := by
  have hrecord : ∀ record ∈ event.record?, ¬ view.least.rank ≤ record.level.rank := by
    intro record hmem
    have hlevel := hevent record hmem
    rw [h.least_eq]
    cases hrank : record.level with
    | debug => decide
    | info => decide
    | warning => exact absurd hrank hlevel
  rw [eventText]
  cases hrecord? : event.record? with
  | none => cases event.debugMessage? <;> simp [h.line_eq_nil]
  | some record =>
    have hbelow := hrecord record hrecord?
    cases event.debugMessage? <;> simp [h.line_eq_nil, hbelow]

theorem eventText_of_record? {event : Event} {record : LogRecord}
    (hrecord : event.record? = some record) (hmessage : event.debugMessage? = none)
    (hlevel : view.least.rank ≤ record.level.rank) : view.eventText event = record.line := by
  simp only [eventText, hrecord, hmessage, if_pos hlevel, List.append_nil]

theorem ShowsWarnings.eventText_skipped (h : view.ShowsWarnings) (source : Text) (e : ParseError) :
    view.eventText (.skipped source e) = e.warning source ++ ['\n'] := by
  have hlevel : view.least.rank ≤ LogLevel.warning.rank := by rw [h.least_eq]
  exact (eventText_of_record? rfl rfl hlevel).trans (LogRecord.line_warning _)

theorem ShowsWarnings.text_of_isQuiet (h : view.ShowsWarnings) {events : List Event}
    (hevents : ∀ event ∈ events, event.IsQuiet) : view.text events = [] :=
  List.flatMap_eq_nil_iff.2 fun event hmem => h.eventText_of_isQuiet (hevents event hmem)

theorem text_append (view : JournalView) (before behind : List Event) :
    view.text (before ++ behind) = view.text before ++ view.text behind := List.flatMap_append

end JournalView

/-! ### What a task shows -/

/-- In every session with a property a task has an outcome and keeps the property, and of what it
notes a view shows a text. -/
def Shows (view : JournalView) (P : Session → Prop) (task : Task ε α) (outcome : Except ε α)
    (shown : Text) : Prop :=
  ∀ s, P s → (task s).1 = outcome ∧ P (task s).2 ∧
    view.text (task s).2.journal = view.text s.journal ++ shown

variable {view : JournalView} {P : Session → Prop}

theorem Ends.shows {task : Task ε α} {outcome : Except ε α} (h : Ends P task outcome)
    (hview : view.ShowsWarnings) (hquiet : task.IsQuiet) : Shows view P task outcome [] := by
  intro s hs
  obtain ⟨houtcome, hkept⟩ := h s hs
  obtain ⟨events, hjournal, hevents⟩ := hquiet s
  exact ⟨houtcome, hkept, by rw [hjournal, view.text_append, hview.text_of_isQuiet hevents]⟩

theorem Shows.bind {task : Task ε α} {next : α → Task ε β} {a : α} {outcome : Except ε β}
    {shown shown' : Text} (htask : Shows view P task (.ok a) shown)
    (hnext : Shows view P (next a) outcome shown') :
    Shows view P (task >>= next) outcome (shown ++ shown') := by
  intro s hs
  obtain ⟨heq, hkept, htext⟩ := htask s hs
  rw [Task.bind_apply]
  rcases htask : task s with ⟨o, s'⟩
  rw [htask] at heq hkept htext
  obtain rfl : o = .ok a := heq
  obtain ⟨houtcome, hkept', htext'⟩ := hnext s' hkept
  exact ⟨houtcome, hkept', by rw [← List.append_assoc, ← htext]; exact htext'⟩

theorem Shows.mapM {f : α → Task ε β} {g : α → β} {shown : α → Text} (xs : List α)
    (hf : ∀ x, Shows view P (f x) (.ok (g x)) (shown x)) :
    Shows view P (xs.mapM f) (.ok (xs.map g)) (xs.flatMap shown) := by
  induction xs with
  | nil => exact fun s hs => ⟨rfl, hs, (List.append_nil _).symm⟩
  | cons x xs ih =>
    rw [List.mapM_cons, List.flatMap_cons, ← List.append_nil (xs.flatMap shown)]
    exact (hf x).bind (ih.bind fun s hs => ⟨rfl, hs, (List.append_nil _).symm⟩)

/-! ### Batches -/

open Session (IsOffering)

variable {attributes : Template.Attributes} {environment : Environment} {table : SurfaceTable}
  {choice : Option Text} {name : Text} {surface : Surface} {source : Text} {x : Expansion}

theorem shows_skipped (hview : view.ShowsWarnings) (source : Text) (e : ParseError) :
    Shows view (IsOffering attributes environment table)
      (Task.note (.skipped source e) : Task ε Unit) (.ok ()) (e.warning source ++ ['\n']) := by
  refine fun s hs => ⟨rfl, hs.note _, ?_⟩
  have hevent : view.text [.skipped source e] = e.warning source ++ ['\n'] := by
    rw [JournalView.text, List.flatMap_singleton, hview.eventText_skipped]
  rw [← hevent]
  exact view.text_append s.journal [.skipped source e]

section

variable (hview : view.ShowsWarnings)
  (hname : table.nameFor? environment choice = some name)
  (hsurface : table.surface? name = some surface)

include hview hname hsurface

/-- A text of a batch gives a warning if it is no invocation. -/
theorem shows_expandLenient (hx : IsExpansion surface source x) :
    Shows view (IsOffering attributes environment table)
      (Loader.expandLenient Task.load choice source) (.ok x)
      ((warning? source).toList.flatMap (· ++ ['\n'])) := by
  unfold Loader.expandLenient warning?
  cases hparse : Invocation.parse source with
  | ok i =>
    exact (ends_expandInvocation hname hsurface hparse hx).shows hview
      (.expandInvocation source i choice)
  | error e =>
    have hrest : Ends (IsOffering attributes environment table)
        (Loader.writeFallback Task.load choice >>= fun expression =>
          pure ⟨source, expression, .malformed e⟩) (.ok x) := by
      rw [hx.eq_of_error hparse]
      exact (ends_writeFallback hname hsurface).bind (.pure _)
    exact (shows_skipped hview source e).bind
      (hrest.shows hview ((Task.IsQuiet.writeFallback choice).bind fun _ => .pure _))

/-- Of a batch, a view of warnings shows one line for each text that is no invocation. -/
theorem shows_expandBatch {expansion : Text → Expansion}
    (hexpansion : ∀ source, IsExpansion surface source (expansion source)) (sources : List Text) :
    Shows view (IsOffering attributes environment table) (Task.expandBatch sources choice)
      (.ok (sources.map expansion)) ((sources.filterMap warning?).flatMap (· ++ ['\n'])) := by
  have htexts : Shows view (IsOffering attributes environment table)
      (sources.mapM (Loader.expandLenient Task.load choice)) (.ok (sources.map expansion))
      ((sources.filterMap warning?).flatMap (· ++ ['\n'])) := by
    rw [List.filterMap_eq_flatMap_toList, List.flatMap_assoc]
    exact .mapM (g := expansion) sources fun source =>
      shows_expandLenient hview hname hsurface (hexpansion source)
  have hquiet (xs : List Expansion) :
      (Event.expanded xs.length (xs.countP fun x => !x.isColor)).IsQuiet := by
    simp [Event.isQuiet_iff]
  -- behind the texts, the summary of the batch shows nothing
  rw [← List.append_nil (List.flatMap _ _)]
  refine htexts.bind (Ends.shows ?_ hview ?_)
  · exact (ends_note _).bind (.pure _)
  · exact (Task.IsQuiet.note (hquiet _)).bind fun _ => .pure _

end

end ColorLiteral
