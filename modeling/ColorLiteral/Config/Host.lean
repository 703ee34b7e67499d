import ColorLiteral.Config.Error
import ColorLiteral.Environment
import ColorLiteral.FileTree
import ColorLiteral.Template

/-!
# The surroundings

What a load can depend on besides its request: the files, the environment, what the system knows of
its users, the readers, and the checks that go by a name. Also where the settings are looked for,
and the attributes of texts, on which templates can depend.
-/

namespace ColorLiteral.Config

/-- A check takes an object and gives the object to use in its place, or turns it down. -/
abbrev Check := Members → Except Rejection Members

/-- Why a reader for relaxed JSON gives no value. -/
inductive RelaxedFault
  /-- The text is refused, in the words of the reader. -/
  | refused (message : Text)
  /-- The text is nested too deeply for the reader. -/
  | tooDeep
  deriving DecidableEq, Repr

/-- What the system brings along to read texts and values. -/
structure Readers where
  /-- The reader for relaxed JSON. -/
  relaxed : Text → Except RelaxedFault Value
  /-- The number of arrays and objects that may be nested in standard JSON. -/
  nestingLimit : Nat
  /-- What the decoder of an encoding says of bytes that it turns down. -/
  decodingFault : Text → List UInt8 → Text

/-- What the library sees of the surroundings in which it works. -/
structure Host where
  files : FileTree
  environment : Environment
  /-- The place where relative paths of the environment start. -/
  workingDirectory : Path
  /-- The place from which the directory of the settings is searched upwards. -/
  home : Path
  /-- The home directory that the system knows of the user of a name, or of the current user. -/
  userHome? : Option Text → Option Text
  /-- Whether the reader for relaxed JSON can be used. -/
  hasRelaxedReader : Bool
  readers : Readers
  /-- The checks by their names. -/
  checks : Text → Check
  /-- The attributes of texts. -/
  attributes : Template.Attributes

namespace Host

/-! ### Home directories -/

/-- The home directory of the user of a name. The empty name is that of the current user, whose home
directory the environment may name. -/
def homeOf? (h : Host) (user : Text) : Option Text :=
  if user.isEmpty then h.environment Environment.userHome <|> h.userHome? none
  else h.userHome? (some user)

/-- A path below a home directory, without slashes at the end of the directory. -/
def below (home path : Text) : Text :=
  match (home.reverse.dropWhile (· == '/')).reverse ++ path with
  | [] => ['/']
  | whole => whole

/-- A written path with the home directory of a user in place of a tilde and a name at its start. -/
def expandUser (h : Host) (t : Text) : Text :=
  match t with
  | '~' :: rest =>
    let user := rest.takeWhile (· ≠ '/')
    match h.homeOf? user with
    | some home => below home (rest.drop user.length)
    | none => t
  | t => t

/-! ### The directory of the settings -/

/-- The directories that may hold the settings, seen from a place: one in it and one in every
directory above it. -/
def candidates (start : Path) : List Path := start.ancestors.map (·.child "data")

/-- The nearest directory for the settings that exists, seen from a place. -/
def nearestData (h : Host) (start : Path) : Except ConfigError Path :=
  if start.hasNul then .error .nul
  else match (candidates start).find? h.files.isDirectory with
    | some directory => .ok directory
    | none => .error (.noDataDirectory (candidates start))

/-- The directory that the environment names. -/
def namedData? (h : Host) : Option Path :=
  (h.environment.nonEmpty? Environment.dataDirectory <|>
    h.environment.nonEmpty? Environment.sharedDataDirectory).map fun written =>
      h.workingDirectory.resolve (h.expandUser written)

/-- The directory of the settings: the one that the environment names, else the given one, else the
nearest one seen from home. -/
def dataDirectory (h : Host) (base : Option Path) : Except ConfigError Path :=
  match h.namedData? <|> base with
  | some directory => .ok directory
  | none => h.nearestData h.home

end Host

end ColorLiteral.Config
