import ColorLiteral.CommandLine.Word

/-!
# Options of a command line

The words of a command line are taken from left to right. The invocations stand together: when
another word follows the first group of them, all later ones are refused. A request for help ends
the reading at once; words that belong nowhere are reported at the end, all together.
-/

namespace ColorLiteral.CommandLine

/-- What a command line selects. -/
structure Options where
  invocations : List Text
  surface : Option Text
  json : Bool
  debug : Bool
  deriving DecidableEq, Repr

/-- What a command line asks for. -/
inductive Request
  | help
  | run (options : Options)
  deriving DecidableEq, Repr

/-- Where the group of invocations is. -/
inductive Group
  | ahead
  | open
  | over
  deriving DecidableEq, Repr

/-- What is known in front of a word. -/
structure Reading where
  options : Options
  group : Group
  /-- The words that belong nowhere. -/
  unrecognized : List Text
  deriving DecidableEq, Repr

namespace Reading

/-- Nothing is known at the start. -/
def start : Reading := ⟨⟨[], none, false, false⟩, .ahead, []⟩

/-- Takes a word that belongs nowhere. -/
def refuse (r : Reading) (t : Text) : Reading := { r with unrecognized := r.unrecognized ++ [t] }

/-- Takes an invocation. -/
def takeInvocation (r : Reading) (t : Text) : Reading :=
  if r.group = .over then r.refuse t
  else { r with
    options := { r.options with invocations := r.options.invocations ++ [t] }, group := .open }

/-- Takes the mark in front of the last invocations, which starts or continues their group. -/
def takeMark (r : Reading) : Reading :=
  if r.group = .over then r.refuse "--" else { r with group := .open }

/-- Ends the group of invocations if it has begun. -/
def endGroup (r : Reading) : Reading :=
  if r.group = .open then { r with group := .over } else r

/-- What a reading gives when no word is left. -/
def finish (r : Reading) : Except UsageError Request :=
  if r.unrecognized.isEmpty then .ok (.run r.options) else .error (.unrecognized r.unrecognized)

end Reading

/-- Takes short options behind the one that asks for help. There is no other one: each of them has
to ask for help again, and the last one must not have a value. -/
def helpLetters : Text → Except UsageError Request
  | ['h'] => .ok .help
  | 'h' :: rest => helpLetters rest
  | value => .error (.unexpectedValue .help value)

/-- Takes the value of the option for the surface. The mark, written as a value, names none. -/
def Reading.takeSurface (r : Reading) (value : Text) : Reading :=
  let named : Option Text := if value = "--" then none else some value
  { r.endGroup with options := { r.options with surface := named } }

/-- Takes the words of a command line. -/
def readWords (r : Reading) : List Word → Except UsageError Request
  | [] => r.finish
  | .invocation t :: rest => readWords (r.takeInvocation t) rest
  | .mark :: rest => readWords r.takeMark rest
  | .unknown t :: rest => readWords (r.endGroup.refuse t) rest
  | .letters letters :: _ => helpLetters letters
  | .option .surface (some value) :: rest => readWords (r.takeSurface value) rest
  | .option .surface none :: .invocation value :: rest => readWords (r.takeSurface value) rest
  | .option .surface none :: _ => .error (.missingValue .surface)
  | .option name (some value) :: _ => .error (.unexpectedValue name value)
  | .option .help none :: _ => .ok .help
  | .option .json none :: rest =>
    readWords { r.endGroup with options := { r.options with json := true } } rest
  | .option .debug none :: rest =>
    readWords { r.endGroup with options := { r.options with debug := true } } rest

/-- Reads a command line. -/
def readRequest (arguments : List Text) : Except UsageError Request := do
  readWords .start (← Word.ofTexts arguments)

end ColorLiteral.CommandLine
