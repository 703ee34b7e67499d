import ColorLiteral.Config.ValueText
import ColorLiteral.Json.Automaton
import ColorLiteral.Path

/-!
# Errors of the loader

Why a settings file gives no value.
-/

namespace ColorLiteral.Config

/-- Why a check turns an object down. The wording is that of the check. -/
inductive Rejection
  /-- The object has the wrong shape. -/
  | wrongShape (message : Text)
  /-- The object is no settings object. -/
  | malformed (message : Text)
  /-- The check fails on the object. -/
  | failed (message : Text)
  /-- The check itself breaks down. -/
  | broken (message : Text)
  deriving DecidableEq, Repr

/-- Why there is no value. -/
inductive ConfigError
  /-- The character with the number zero is in a path or a variable. -/
  | nul
  /-- None of the directories exists that could hold the settings. -/
  | noDataDirectory (tried : List Path)
  /-- The file is not below the directory of the settings. -/
  | outside (path directory : Path)
  | missing (path : Path)
  /-- The name of the encoding is unknown. -/
  | unknownEncoding (name : Text)
  /-- The name is not that of an encoding of text. -/
  | noTextEncoding (name : Text)
  /-- Comments are asked for, but there is no reader for relaxed JSON. -/
  | relaxedUnavailable
  /-- The text of the file is no standard JSON. -/
  | malformed (path : Path) (source : Text) (error : JsonError)
  /-- The bytes of the file are no text, or its text is no relaxed JSON. The reader says why. -/
  | unreadable (path : Path) (reason : Text)
  /-- The text of the file is nested too deeply. -/
  | tooDeep (container : Option JsonContainer)
  /-- The value is checked as an object, but is none. -/
  | notAnObject (file typeName : Text)
  | rejected (file : Text) (reason : Rejection)
  | unknownMode (name : Text)
  deriving DecidableEq, Repr

/-- The wording of a rejection of the object in a file. -/
def Rejection.report (file : Text) : Rejection → Text
  | wrongShape message | malformed message | broken message => message
  | failed message => file ++ ": validator failed: " ++ message

/-- What was going on when the nesting became too deep. -/
def nestingPlace : Option JsonContainer → Text
  | none => []
  | some .array => " while decoding a JSON array from a unicode string"
  | some .object => " while decoding a JSON object from a unicode string"

/-- The wording of an error. -/
def ConfigError.message : ConfigError → Text
  | nul => "embedded null byte"
  | noDataDirectory tried =>
    "No 'data' directory found.\nTried:\n  " ++ Text.joinWith "\n  " (tried.map Path.toText)
  | outside path directory =>
    "Refusing to access file outside data dir: " ++ path.toText ++ " (base=" ++ directory.toText ++
      ")"
  | missing path => "Config file not found: " ++ path.toText
  | unknownEncoding name => "unknown encoding: " ++ name
  | noTextEncoding name =>
    "'" ++ name.clipBytes 400 ++ "' is not a text encoding; " ++
      "use codecs.open() to handle arbitrary codecs"
  | relaxedUnavailable => "json5 requested (allow_comments=True) but not installed"
  | malformed path source error =>
    "Invalid JSON in " ++ path.toText ++ ": " ++ error.message source
  | unreadable path reason => "Invalid JSON5 in " ++ path.toText ++ ": " ++ reason
  | tooDeep container => "maximum recursion depth exceeded" ++ nestingPlace container
  | notAnObject file typeName =>
    file ++ ": expected dict for mode 'validated_dict', got " ++ typeName
  | rejected file reason => reason.report file
  | unknownMode name => "Unknown mode '" ++ name ++ "'"

end ColorLiteral.Config
