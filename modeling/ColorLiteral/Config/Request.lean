import ColorLiteral.Config.Host

/-!
# Requests for settings

What is asked of the loader, and the file that a request denotes.
-/

namespace ColorLiteral.Config

/-- What is done with the value of a file. -/
inductive Mode
  /-- It is taken as it is. -/
  | raw
  /-- It has to be an object, and the check of the request is run on it. -/
  | checked
  /-- There is no such mode. -/
  | unknown (name : Text)
  deriving DecidableEq, Repr

namespace Mode

/-- The name of a mode. -/
def name : Mode → Text
  | raw => "raw"
  | checked => "validated_dict"
  | unknown name => name

/-- The mode with a name. -/
def ofName (t : Text) : Mode :=
  if t = raw.name then raw else if t = checked.name then checked else unknown t

end Mode

/-- A check, told apart from all others. -/
inductive CheckId
  /-- The check of the surface table. -/
  | surfaces
  /-- A check that the host knows under a name. -/
  | named (name : Text)
  deriving DecidableEq, Repr

/-- What is asked of the loader. -/
structure Request where
  /-- The name of the file, with or without its ending. -/
  file : Text
  /-- The directory of the settings if the environment names none. -/
  base : Option Path
  mode : Mode
  /-- The name of the encoding of the file. -/
  encoding : Text
  /-- Whether the file may be in relaxed JSON. -/
  relaxed : Bool
  check : Option CheckId
  deriving DecidableEq, Repr

/-- The ending of the files. -/
def fileEnding : Text := ".json"

/-- A file that exists, at its path. -/
structure Located where
  path : Path
  file : File
  deriving DecidableEq, Repr

namespace Request

/-- The name of the file with its ending. -/
def fileName (r : Request) : Text :=
  if fileEnding.isSuffixOf r.file then r.file else r.file ++ fileEnding

/-- The file that a request denotes. It lies in the directory of the settings or below. -/
def locate (r : Request) (h : Host) : Except ConfigError Located := do
  let directory ← h.dataDirectory r.base
  let path := directory.resolve r.fileName
  if directory.hasNul || r.fileName.hasNul then .error .nul
  else if path.isWithin directory then
    match h.files.file? path with
    | some file => .ok ⟨path, file⟩
    | none => .error (.missing path)
  else .error (.outside path directory)

end Request

end ColorLiteral.Config
