import ColorLiteral.Text.Basic

/-!
# Environments

The named variables of the surroundings in which the library works. A variable is set, perhaps to
the empty text, or it is not set.
-/

namespace ColorLiteral

/-- The value of every variable that is set. -/
abbrev Environment := Text → Option Text

namespace Environment

/-- No variable is set. -/
def empty : Environment := fun _ => none

/-- The environment with one variable set anew, or no longer set. -/
def assign (e : Environment) (name : Text) (value : Option Text) : Environment :=
  fun other => if other = name then value else e other

/-- The value of a variable if it is set and not empty. -/
def nonEmpty? (e : Environment) (name : Text) : Option Text :=
  (e name).filter fun value => !value.isEmpty

/-- The directory of the settings. -/
def dataDirectory : Text := "COLOR_MACRO_DATA_DIR"

/-- The directory of the settings of several programs, when there is no special one. -/
def sharedDataDirectory : Text := "DATA_DIR"

/-- The home directory of the current user. -/
def userHome : Text := "HOME"

/-- The surface that is used when none is named. -/
def surface : Text := "COLOR_MACRO_SURFACE"

/-- The topics of the debug log. -/
def debugTopics : Text := "COLOR_MACRO_DEBUG_TOPICS"

@[simp] theorem assign_same (e : Environment) (name : Text) (value : Option Text) :
    e.assign name value name = value := by simp [assign]

theorem assign_other {other name : Text} (e : Environment) (value : Option Text)
    (h : other ≠ name) : e.assign name value other = e other := by simp [assign, h]

end Environment

end ColorLiteral
