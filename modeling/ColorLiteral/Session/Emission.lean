import ColorLiteral.Session.Basic

/-!
# Writing colors for a surface

The surface table is loaded whenever it is needed. The surface is the named one; if none is named,
it is the one of the environment, else the one that the table prefers. The loader is a parameter, so
that the work can be compared for different ones.
-/

namespace ColorLiteral

/-- Why a color is not written. -/
inductive EmitError
  | config (error : Config.ConfigError)
  /-- The table has no such surface. -/
  | unknownSurface (name : Text) (known : List Text)
  /-- The table prefers a surface whose name has too many digits. -/
  | unwritableName
  /-- The template of the surface cannot be filled. -/
  | template (fault : TemplateFault)
  deriving DecidableEq, Repr

/-- The wording of an error. -/
def EmitError.message : EmitError → Text
  | config error => error.message
  | unknownSurface name known =>
    "Unknown surface '" ++ name ++ "' (known: " ++ Text.joinWith ", " known ++ ")"
  | unwritableName => Config.tooManyDigitsText
  | template fault => fault.message

/-- The texts that a template may name. -/
def Rgba.templateValues (c : Rgba) : Template.Values :=
  [("red".toList, c.red.toText), ("green".toList, c.green.toText), ("blue".toList, c.blue.toText),
    ("alpha".toList, c.alpha.toText), ("hex".toList, c.toHex), ("hexa".toList, c.toHexAlpha)]

/-- A color in the expression of a surface, where texts have some attributes. -/
def Surface.write (surface : Surface) (attributes : Template.Attributes) (color : Rgba) :
    Except TemplateFault Text :=
  Template.fill attributes color.templateValues surface.template

namespace SurfaceTable

/-- The request for the surface table. It may be in relaxed JSON where that can be read. -/
def request (hasRelaxedReader : Bool) : Config.Request where
  file := "emitters"
  base := none
  mode := .checked
  encoding := "utf-8"
  relaxed := hasRelaxedReader
  check := some .surfaces

/-- The table in a loaded value. -/
def ofValue (file : Text) : Config.Value → Except Config.ConfigError SurfaceTable
  | .object settings =>
    match ofMembers settings with
    | .ok table => .ok table
    | .error fault => .error (.rejected file (.wrongShape fault.message))
  | value => .error (.notAnObject file (Config.typeName value))

end SurfaceTable

namespace Loader

variable (load : Loader)

/-- Loads the surface table. -/
def surfaceTable : Task EmitError SurfaceTable := do
  let hasReader := (← get).host.hasRelaxedReader
  let loaded ← (load (SurfaceTable.request hasReader)).adapt .config
  (Task.ofExcept (SurfaceTable.ofValue loaded.file loaded.value)).adapt .config

/-- The name of the surface that is used when none is named. -/
def preferredSurface : Task EmitError Text := do
  let chosen := Text.trim (((← get).host.environment Environment.surface).getD [])
  if chosen.isEmpty then
    match (← load.surfaceTable).preferredName? with
    | some name => return name
    | none => throw .unwritableName
  else return chosen

/-- The given name of a surface, or the one that is used when none is named. An empty name names
none. -/
def surfaceName : Option Text → Task EmitError Text
  | some (c :: cs) => pure (c :: cs)
  | _ => load.preferredSurface

/-- The named surface, or the one that is used when none is named. -/
def surface (name : Option Text) : Task EmitError Surface := do
  let name ← load.surfaceName name
  let table ← load.surfaceTable
  match table.surface? name with
  | some surface => return surface
  | none => throw (.unknownSurface name table.names)

/-- A color in the expression of a surface. -/
def writeColor (color : Rgba) (name : Option Text) : Task EmitError Text := do
  let attributes := (← get).host.attributes
  let surface ← load.surface name
  match surface.write attributes color with
  | .ok expression =>
    Task.note (.emitted expression)
    return expression
  | .error fault => throw (.template fault)

/-- The expression of a surface for a missing color. -/
def writeFallback (name : Option Text) : Task EmitError Text := do
  return (← load.surface name).fallback

end Loader

namespace Task

/-- A color in the expression of a surface of the loaded table. -/
def writeColor (color : Rgba) (name : Option Text) : Task EmitError Text :=
  Loader.writeColor load color name

/-- The expression of a surface of the loaded table for a missing color. -/
def writeFallback (name : Option Text) : Task EmitError Text := Loader.writeFallback load name

end Task

end ColorLiteral
