import ColorLiteral.Config.Host
import ColorLiteral.Json.Printer
import ColorLiteral.Json.Relaxed
import ColorLiteral.Surface.Table

/-!
# The settings that come with the library

The packaged surface table as a settings file, the surroundings of the program without any files,
and those in which the packaged table is the only file.
-/

namespace ColorLiteral

/-- The file of the packaged surface table. It is in ASCII. -/
def SurfaceTable.packagedFile : File :=
  ⟨(Json.print SurfaceTable.packaged.document).map fun c => c.toNat.toUInt8, 0⟩

namespace Config.Host

/-- The place of the library, next to its settings. -/
def libraryHome : Path := Path.root.child "color-literal"

/-- The path of the packaged surface table. -/
def packagedPath : Path := (libraryHome.child "data").child "emitters.json"

/-- The reader for relaxed JSON that comes with the program. -/
def readRelaxedJson (source : Text) : Except RelaxedFault Value :=
  (Json.Relaxed.read source).mapError fun
    | .tooDeep _ => .tooDeep
    | fault => .refused fault.description

/-- What the program brings along to read texts and values. -/
def programReaders : Readers where
  relaxed := readRelaxedJson
  nestingLimit := 987
  decodingFault := fun encoding _ => "'" ++ encoding ++ "' codec can't decode the bytes of the file"

/-- The surroundings of the program without any files. No user and no check has a name, and texts
have no attributes. -/
def bare (environment : Environment) : Host where
  files := .empty
  environment := environment
  workingDirectory := .root
  home := libraryHome
  userHome? := fun _ => none
  hasRelaxedReader := true
  readers := programReaders
  checks := fun _ => .ok
  attributes := .none

/-- Surroundings in which the packaged surface table is the only file. -/
def packaged (environment : Environment) : Host :=
  { bare environment with files := FileTree.empty.write packagedPath SurfaceTable.packagedFile }

end Config.Host

end ColorLiteral
