import ColorLiteral.Config.Error
import ColorLiteral.Template

/-!
# Surface tables

A surface is a target that colors are written for. It has a template for a color and an expression
that stands in where there is no color. The table of the surfaces is read from a settings object.
-/

namespace ColorLiteral

/-- How colors are written for one target. -/
structure Surface where
  /-- The template of a color. -/
  template : Text
  /-- The expression for a missing color. -/
  fallback : Text
  deriving DecidableEq, Repr

/-- What settings select for the case that no surface is named. -/
inductive SurfacePreference
  /-- They leave it open. -/
  | unset
  | named (name : Text)
  /-- A value that cannot be written out as a name. -/
  | unwritable
  deriving DecidableEq, Repr

/-- The surfaces by their names. -/
structure SurfaceTable where
  /-- The surface that the settings select when none is named. -/
  preferred : SurfacePreference
  surfaces : List (Text × Surface)
  deriving DecidableEq, Repr

namespace SurfaceTable

/-! ### Reading -/

/-- Why an object is no surface table. -/
inductive Fault
  | noSurfaces
  | notAnObject (surface : Text)
  | missingText (surface key : Text)
  deriving DecidableEq, Repr

/-- The wording of a fault. -/
def Fault.message : Fault → Text
  | noSurfaces => "emitters.json: 'surfaces' must be a non-empty object"
  | notAnObject surface => "emitters.json: surface '" ++ surface ++ "' must be an object"
  | missingText surface key =>
    "emitters.json: surface '" ++ surface ++ "' needs a string '" ++ key ++ "'"

open Config (Value Members)

/-- The text under a key of the entry of a surface. -/
def textUnder (surface key : Text) (entry : Members) : Except Fault Text :=
  match Json.member? key entry with
  | some (.string t) => .ok t
  | _ => .error (.missingText surface key)

/-- The surface that an entry describes. -/
def readSurface : Text × Value → Except Fault (Text × Surface)
  | (name, .object entry) => do
    let template ← textUnder name "template" entry
    let fallback ← textUnder name "fallback" entry
    .ok (name, ⟨template, fallback⟩)
  | (name, _) => .error (.notAnObject name)

/-- The surface that an object selects when none is named; a value that counts as absent selects
none. -/
def readPreferred (settings : Members) : SurfacePreference :=
  match (Json.member? "default_surface" settings).filter fun v => !Config.isVoid v with
  | none => .unset
  | some value =>
    match Config.valueText? value with
    | some name => .named name
    | none => .unwritable

/-- The table that an object describes. -/
def ofMembers (settings : Members) : Except Fault SurfaceTable :=
  match Json.member? "surfaces" settings with
  | some (.object (entry :: entries)) => do
    let surfaces ← (entry :: entries).mapM readSurface
    .ok ⟨readPreferred settings, surfaces⟩
  | _ => .error .noSurfaces

/-- Lets an object pass unchanged if it describes a table. -/
def check (settings : Members) : Except Config.Rejection Members :=
  match ofMembers settings with
  | .ok _ => .ok settings
  | .error fault => .error (.wrongShape fault.message)

/-! ### Use -/

/-- The surface of a name. -/
def surface? (table : SurfaceTable) (name : Text) : Option Surface := table.surfaces.lookup name

/-- The names of the surfaces, ordered by code points. -/
def names (table : SurfaceTable) : List Text :=
  (table.surfaces.map Prod.fst).mergeSort fun a b => !Text.precedes b a

/-- The surface that is used when the settings select none. -/
def defaultName : Text := "swiftui"

/-- The name of the surface that is used when none is named, if it can be written out. -/
def preferredName? (table : SurfaceTable) : Option Text :=
  match table.preferred with
  | .unset => some defaultName
  | .named name => some name
  | .unwritable => none

/-! ### Writing -/

/-- A table as a settings object. A preference that cannot be written out is left open. -/
def document (table : SurfaceTable) : Json Text :=
  let preferred : List (Text × Json Text) := match table.preferred with
    | .named name => [("default_surface".toList, .string name)]
    | _ => []
  let surfaces : List (Text × Json Text) := table.surfaces.map fun (name, s) =>
    (name, .object
      [("template".toList, .string s.template), ("fallback".toList, .string s.fallback)])
  .object (preferred ++ [("surfaces".toList, .object surfaces)])

/-- A field of a template. -/
def field (name : Text) : Text := '{' :: name ++ ['}']

/-- A template that calls a function with the four channels, each behind a name. -/
def callTemplate (function red green blue alpha : Text) : Text :=
  let argument (name channel : Text) : Text := name ++ ": " ++ field channel
  function ++ "(" ++
    Text.joinWith ", "
      [argument red "red", argument green "green", argument blue "blue", argument alpha "alpha"] ++
    ")"

/-- The table that comes with the library. -/
def packaged : SurfaceTable where
  preferred := .named defaultName
  surfaces :=
    [("swiftui".toList,
      ⟨callTemplate "SwiftUI.Color" "red" "green" "blue" "opacity", "SwiftUI.Color.clear"⟩),
    ("uikit".toList, ⟨callTemplate "UIColor" "red" "green" "blue" "alpha", "UIColor.clear"⟩),
    ("appkit".toList, ⟨callTemplate "NSColor" "srgbRed" "green" "blue" "alpha", "NSColor.clear"⟩),
    ("css".toList, ⟨field "hexa", "transparent"⟩)]

end SurfaceTable

end ColorLiteral
