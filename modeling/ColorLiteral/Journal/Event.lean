import ColorLiteral.Config.Loader
import ColorLiteral.Journal.Topics
import ColorLiteral.Resolution

/-!
# What is worth a note

The events that a run takes note of, in the order in which they happen, and their wording. An event
may give a record of the program log, a line of the debug log, or both.
-/

namespace ColorLiteral

/-- How important a record is. -/
inductive LogLevel
  | debug
  | info
  | warning
  deriving DecidableEq, Repr

namespace LogLevel

/-- The name of a level. -/
def name : LogLevel → Text
  | debug => "DEBUG"
  | info => "INFO"
  | warning => "WARNING"

/-- The place of a level in the order of importance. -/
def rank : LogLevel → Nat
  | debug => 0
  | info => 1
  | warning => 2

end LogLevel

/-- A record of the program log. -/
structure LogRecord where
  level : LogLevel
  /-- The part of the program that it comes from. -/
  origin : Text
  message : Text
  deriving DecidableEq, Repr

/-- The line of a record. -/
def LogRecord.line (r : LogRecord) : Text :=
  r.level.name ++ " color_macro_expander.expansion." ++ r.origin ++ ": " ++ r.message ++ "\n"

/-- Something that happened. -/
inductive Event
  | parsed (name : Text) (count : Nat)
  /-- A known label resembles an unknown one. -/
  | suggested (label : Text) (found : Suggestion.Match)
  | notSuggested (label : Text)
  /-- A hexadecimal color is written in more than one piece. -/
  | severalSegments (count : Nat) (literal : Text)
  | decoded (text : Text) (color : Rgba)
  | resolved (variant : Variant) (color : Rgba)
  | notResolved (diagnostic : Diagnostic)
  | cacheHit (file : Text) (mode : Config.Mode)
  | cacheStored (file : Text) (mode : Config.Mode)
  | emitted (expression : Text)
  | skipped (source : Text) (error : ParseError)
  | expanded (count failed : Nat)
  deriving DecidableEq

/-- A color with the names of its channels. -/
def Rgba.labeledText (c : Rgba) : Text :=
  "RGBAColor(red=" ++ c.red.toText ++ ", green=" ++ c.green.toText ++ ", blue=" ++ c.blue.toText ++
    ", alpha=" ++ c.alpha.toText ++ ")"

/-- The channels of a color in brackets. -/
def Rgba.channelText (c : Rgba) : Text :=
  "(" ++ Text.joinWith ", " (c.channels.map Binary64.toText) ++ ")"

namespace Event

/-- The record of an event in the program log. -/
def record? : Event → Option LogRecord
  | parsed name count =>
    some ⟨.debug, "general.syntax.parser",
      "Parsed #" ++ name ++ " with " ++ Text.ofNat count ++ " argument(s)"⟩
  | suggested label found =>
    some ⟨.debug, "general.fuzzy.label_match",
      "Label suggestion " ++ Text.quoted label ++ " -> " ++ Text.quoted found.text ++ " (score=" ++
        Suggestion.scoreText found.score ++ ")"⟩
  | notSuggested label =>
    some ⟨.debug, "general.fuzzy.label_match", "No label suggestion for " ++ Text.quoted label⟩
  | severalSegments count literal =>
    some ⟨.debug, "color.literal.extract",
      "String literal has " ++ Text.ofNat count ++ " segment(s): " ++ Text.quoted literal⟩
  | decoded text color =>
    some ⟨.debug, "color.hex.decode",
      "Decoded hex " ++ Text.quoted text ++ " -> " ++ color.labeledText⟩
  | resolved _ _ => none
  | notResolved d =>
    some ⟨.debug, "color.logic.resolver",
      "Resolution failed: " ++ d.kind.name ++ " at " ++ Text.ofInt d.anchor.start ++ ".." ++
        Text.ofInt d.anchor.stop⟩
  | cacheHit file mode =>
    some ⟨.debug, "general.utils.load_config",
      "Config cache HIT: " ++ file ++ " (mode=" ++ mode.name ++ ")"⟩
  | cacheStored file mode =>
    some ⟨.debug, "general.utils.load_config",
      "Config cache MISS -> STORED: " ++ file ++ " (mode=" ++ mode.name ++ ")"⟩
  | emitted expression => some ⟨.debug, "color.emit.emitter", "Emitted " ++ expression⟩
  | skipped source error =>
    some ⟨.warning, "orchestrator",
      "Skipping malformed invocation " ++ Text.quoted source ++ ": " ++ error.message⟩
  | expanded count failed =>
    some ⟨.info, "orchestrator",
      "Expanded " ++ Text.ofNat count ++ " invocation(s), " ++ Text.ofNat failed ++ " failed"⟩

/-- The message of an event in the debug log. -/
def debugMessage? : Event → Option Text
  | resolved variant color => some (variant.name ++ " -> " ++ color.channelText)
  | notResolved d => some (d.kind.name ++ ": " ++ d.message)
  | _ => none

end Event

/-! ### Reports -/

/-- What of a journal is shown: the least level of records, and the topics of the debug log with the
time that its lines bear. -/
structure JournalView where
  least : LogLevel
  topics : Topics
  time : Text
  deriving DecidableEq, Repr

namespace JournalView

/-- The topic of all debug lines. -/
def topic : Text := "resolver"

/-- What is shown of an event. -/
def eventText (view : JournalView) (event : Event) : Text :=
  let record := match event.record? with
    | some record => if view.least.rank ≤ record.level.rank then record.line else []
    | none => []
  let line := match event.debugMessage? with
    | some message => view.topics.line view.time topic LogLevel.debug.name message
    | none => []
  record ++ line

/-- What is shown of a journal. -/
def text (view : JournalView) (journal : List Event) : Text := journal.flatMap view.eventText

end JournalView

end ColorLiteral
