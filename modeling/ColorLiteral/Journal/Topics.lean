import ColorLiteral.Text.Blank
import ColorLiteral.Text.Case

/-!
# Topics of the debug log

The debug log has lines of several topics, and prints those whose topic is selected. A list of
topics is written with commas; the topic `all` selects every line.
-/

namespace ColorLiteral

/-- The selected topics, in small letters. -/
structure Topics where
  selected : List Text
  deriving DecidableEq, Repr

namespace Topics

/-- The topics of a written list. Blank ones do not count. -/
def ofText (t : Text) : Topics :=
  ⟨(((Text.splitOn ',' t).map Text.trim).filter (!·.isEmpty)).map Text.lower⟩

/-- The topics that a variable selects, which may be unset. -/
def ofVariable (value : Option Text) : Topics := ofText (value.getD [])

/-- The form of a topic that is compared and printed. -/
def normal (topic : Text) : Text := Text.trim (Text.lower topic)

/-- Whether the lines of a topic are printed. -/
def selects (topics : Topics) (topic : Text) : Bool :=
  topics.selected.contains "all".toList || topics.selected.contains (normal topic)

/-- The line of a message at a given time, if its topic is selected. -/
def line (topics : Topics) (time topic level message : Text) : Text :=
  if topics.selects topic then
    "[" ++ time ++ "] [" ++ normal topic ++ "][" ++ Text.upper level ++ "] " ++ message ++ "\n"
  else []

end Topics

end ColorLiteral
