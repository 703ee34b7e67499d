import ColorLiteral.Expansion.Basic
import ColorLiteral.Journal.Resolving
import ColorLiteral.Session.Emission

/-!
# Expanding invocations

A single text has to be an invocation. In a batch a text that is none is noted and expands to the
fallback of the surface. Any other error ends the work.
-/

namespace ColorLiteral

/-- Why a single text is not expanded. -/
inductive ExpandError
  | malformed (error : ParseError)
  | emission (error : EmitError)
  deriving DecidableEq, Repr

namespace Loader

variable (load : Loader)

/-- Writes the color of a resolution, or the fallback if there is none. -/
def writeResolution (surface : Option Text) : Resolution → Task EmitError Text
  | .color color => load.writeColor color surface
  | .failure _ => load.writeFallback surface

/-- Expands a parsed invocation. -/
def expandInvocation (source : Text) (i : Invocation) (surface : Option Text) :
    Task EmitError Expansion := do
  i.events.forM Task.note
  let expression ← load.writeResolution surface i.resolve
  return ⟨source, expression, i.resolve.outcome⟩

/-- Expands a text that has to be an invocation. -/
def expand (source : Text) (surface : Option Text) : Task ExpandError Expansion :=
  match Invocation.parse source with
  | .error error => throw (.malformed error)
  | .ok i => (load.expandInvocation source i surface).adapt .emission

/-- Expands a text of a batch. -/
def expandLenient (surface : Option Text) (source : Text) : Task EmitError Expansion := do
  match Invocation.parse source with
  | .error error =>
    Task.note (.skipped source error)
    let expression ← load.writeFallback surface
    return ⟨source, expression, .malformed error⟩
  | .ok i => load.expandInvocation source i surface

/-- Expands a batch of texts. -/
def expandBatch (sources : List Text) (surface : Option Text) :
    Task EmitError (List Expansion) := do
  let expansions ← sources.mapM (load.expandLenient surface)
  Task.note (.expanded expansions.length (expansions.countP fun x => !x.isColor))
  return expansions

end Loader

namespace Task

/-- Expands a text that has to be an invocation, with the loaded table. -/
def expand (source : Text) (surface : Option Text) : Task ExpandError Expansion :=
  Loader.expand load source surface

/-- Expands a batch of texts, with the loaded table. -/
def expandBatch (sources : List Text) (surface : Option Text) :
    Task EmitError (List Expansion) := Loader.expandBatch load sources surface

end Task

end ColorLiteral
