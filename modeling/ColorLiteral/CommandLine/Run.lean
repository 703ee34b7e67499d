import ColorLiteral.CommandLine.Options
import ColorLiteral.Session.Expansion

/-!
# Running a command line

The texts that a command line prints and the code with which it ends: zero if every invocation has
a color, one if some has none or the surface is unknown, two if the command line is refused.
-/

namespace ColorLiteral.CommandLine

/-! ### Fixed texts -/

/-- How the program is called. -/
def usage : Text :=
  "usage: color-macro-demo [-h] [--surface SURFACE] [--json] [--debug]\n" ++
  "                        [invocations ...]\n"

/-- The help text. -/
def help : Text :=
  usage ++
  "\n" ++
  "Expand #Color(...) invocations into color constructor expressions.\n" ++
  "\n" ++
  "positional arguments:\n" ++
  "  invocations        Invocations to expand (e.g. '#Color(rgba: 154, 234, 98,\n" ++
  "                     0.5)')\n" ++
  "\n" ++
  "options:\n" ++
  "  -h, --help         show this help message and exit\n" ++
  "  --surface SURFACE  Target surface (swiftui, uikit, appkit, css)\n" ++
  "  --json             Print results as JSON\n" ++
  "  --debug            Verbose debug logs\n"

/-- What is expanded when there are no invocations. -/
def sample : Text := "#Color(hex: \"#336699\")"

/-! ### Output -/

/-- What a run prints, and the code with which it ends. -/
structure Output where
  code : Nat
  out : Text
  err : Text
  deriving DecidableEq, Repr

/-- A text and the line break behind it. -/
def line (t : Text) : Text := t ++ ['\n']

/-- The output for a refused command line. -/
def refusal (error : UsageError) : Output :=
  ⟨2, [], usage ++ line ("color-macro-demo: error: " ++ error.message)⟩

/-- What is printed of expansions, behind the journal: either one document, or the expressions apart
from the failures. -/
def report (json : Bool) (journal : Text) (expansions : List Expansion) : Output :=
  let code := if expansions.all Expansion.isColor then 0 else 1
  if json then
    ⟨code, line (Json.print (.array (expansions.map Expansion.document))), journal⟩
  else
    let (colors, failures) := expansions.partition Expansion.isColor
    let lines (xs : List Expansion) : Text := xs.flatMap fun x => line x.render
    ⟨code, lines colors, journal ++ lines failures⟩

/-- The batch that options select. -/
def batch (options : Options) : List Text :=
  if options.invocations.isEmpty then [sample] else options.invocations

/-- What of the journal is printed. The topics of the debug log are those of the environment. -/
def journalView (host : Config.Host) (time : Text) (debug : Bool) : JournalView where
  least := if debug then .debug else .warning
  topics := .ofVariable (host.environment Environment.debugTopics)
  time := time

/-- Expands the batch that options select. -/
def runBatch (host : Config.Host) (time : Text) (options : Options) :
    Except EmitError Output :=
  let (outcome, session) := Task.expandBatch (batch options) options.surface (Session.start host)
  let journal := (journalView host time options.debug).text session.journal
  match outcome with
  | .ok expansions => .ok (report options.json journal expansions)
  | .error (.unknownSurface name known) =>
    .ok ⟨1, [], journal ++ line ("❌ Error: " ++ (EmitError.unknownSurface name known).message)⟩
  | .error error => .error error

/-- Runs a command line at a given time. Errors of the settings other than an unknown surface are
left to the caller. -/
def run (host : Config.Host) (time : Text) (arguments : List Text) : Except EmitError Output :=
  match readRequest arguments with
  | .error error => .ok (refusal error)
  | .ok .help => .ok ⟨0, help, []⟩
  | .ok (.run options) => runBatch host time options

end ColorLiteral.CommandLine
