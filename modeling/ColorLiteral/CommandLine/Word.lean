import ColorLiteral.Text.Digit
import ColorLiteral.Text.Quoted

/-!
# Words of a command line

Every word of a command line is an option, an invocation, or the mark behind which all words are
invocations. A long option may be shortened as long as one option only is meant, and a value may
follow it after an equals sign. Numbers with a minus sign and words with a blank are invocations
even when they start with a hyphen.
-/

namespace ColorLiteral.CommandLine

/-- The options. -/
inductive OptionName
  | help
  | surface
  | json
  | debug
  deriving DecidableEq, Repr

namespace OptionName

/-- The options in the order in which they are listed. -/
def all : List OptionName := [help, surface, json, debug]

/-- The long form of an option. -/
def long : OptionName → Text
  | help => "--help"
  | surface => "--surface"
  | json => "--json"
  | debug => "--debug"

/-- An option as an error names it. -/
def title : OptionName → Text
  | help => "-h/--help"
  | name => name.long

end OptionName

/-- Why a command line is refused. -/
inductive UsageError
  /-- The beginning of a long option fits several of them. -/
  | ambiguous (word : Text) (candidates : List OptionName)
  /-- An option that takes no value has one. -/
  | unexpectedValue (option : OptionName) (value : Text)
  /-- An option has no value. -/
  | missingValue (option : OptionName)
  /-- Some words belong nowhere. -/
  | unrecognized (words : List Text)
  deriving DecidableEq, Repr

/-- The wording of an error. -/
def UsageError.message : UsageError → Text
  | ambiguous word candidates =>
    "ambiguous option: " ++ word ++ " could match " ++
      Text.joinWith ", " (candidates.map OptionName.long)
  | unexpectedValue option value =>
    "argument " ++ option.title ++ ": ignored explicit argument " ++ Text.quoted value
  | missingValue option => "argument " ++ option.title ++ ": expected one argument"
  | unrecognized words => "unrecognized arguments: " ++ Text.joinWith " " words

/-- A word by its part in the command line. -/
inductive Word
  | invocation (text : Text)
  /-- The mark behind which all words are invocations. -/
  | mark
  /-- A long option, perhaps with a value behind an equals sign. -/
  | option (name : OptionName) (value : Option Text)
  /-- Short options in one word: what stands behind the first one, which asks for help. -/
  | letters (rest : Text)
  /-- An option that there is not. -/
  | unknown (text : Text)
  deriving DecidableEq, Repr

namespace Word

/-- The part of a word before the first equals sign, and the part behind it. -/
def splitValue (t : Text) : Text × Option Text :=
  match t.dropWhile (· ≠ '=') with
  | [] => (t, none)
  | _ :: value => (t.takeWhile (· ≠ '='), some value)

/-- Whether all characters of a text are digits, and there is one at least. -/
def isWhole (t : Text) : Bool := !t.isEmpty && t.all Text.isDecimalDigit

/-- Whether a text is digits, perhaps with a point and at least one digit behind it. -/
def isNumeral (t : Text) : Bool :=
  isWhole t ||
    match t.dropWhile Text.isDecimalDigit with
    | '.' :: fraction => isWhole fraction
    | _ => false

/-- A text without one line break at its end. -/
def dropLineBreak (t : Text) : Text := if t.getLast? = some '\n' then t.dropLast else t

/-- Whether a word is a number behind a minus sign. A line break may follow it. -/
def isNegativeNumber : Text → Bool
  | '-' :: digits => isNumeral (dropLineBreak digits)
  | _ => false

/-- A word that starts with a hyphen but is no option. -/
def ofOther (t : Text) : Word :=
  if isNegativeNumber t || t.contains ' ' then .invocation t else .unknown t

/-- The word that a long option or the beginning of one spells. -/
def ofLong (t : Text) : Except UsageError Word :=
  let (name, value) := splitValue t
  match OptionName.all.find? (·.long == name) with
  | some found => .ok (.option found value)
  | none =>
    match OptionName.all.filter fun candidate => name.isPrefixOf candidate.long with
    | [] => .ok (ofOther t)
    | [found] => .ok (.option found value)
    | candidates => .error (.ambiguous t candidates)

/-- The word that a text in front of the mark spells. -/
def ofText (t : Text) : Except UsageError Word :=
  match t with
  | ['-', '-'] => .ok .mark
  | '-' :: '-' :: _ => ofLong t
  | ['-', 'h'] => .ok (.option .help none)
  | '-' :: 'h' :: '=' :: rest => .ok (.letters rest)
  | '-' :: 'h' :: rest => .ok (.letters rest)
  | '-' :: _ :: _ => .ok (ofOther t)
  | _ => .ok (.invocation t)

/-- The words of a command line. -/
def ofTexts : List Text → Except UsageError (List Word)
  | [] => .ok []
  | t :: rest => do
    let word ← ofText t
    if word = .mark then .ok (.mark :: rest.map .invocation)
    else .ok (word :: (← ofTexts rest))

end Word

end ColorLiteral.CommandLine
