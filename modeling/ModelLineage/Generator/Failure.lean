import ModelLineage.Flatten.Flattening
import ModelLineage.Generator.Settings
import ModelLineage.GraphDocument.Loading

/-!
# Failures of a generation run

A run fails because its graph cannot be loaded, because a strict check finds the
graph inconsistent, because the ancestors of some model run in a circle, or
because the settings name an unknown library.
-/

namespace ModelLineage

/-- Why a run fails. -/
inductive Failure where
  | load (error : LoadError)
  | inconsistent (found : Inconsistency)
  | cyclicInheritance (cycle : List String)
  | unknownLibrary (unknown : Settings.UnknownLibrary)
  deriving DecidableEq, Inhabited

namespace Failure

/-- The wording of a failure. -/
def message : Failure → String
  | load error => "model graph parse error: " ++ error.message
  | inconsistent found => "model graph error: " ++ found.message
  | cyclicInheritance cycle => "cyclic inheritance: " ++ " -> ".intercalate cycle
  | unknownLibrary unknown =>
    "unknown library '" ++ unknown.library ++ "', expected one of: " ++
      ", ".intercalate unknown.supported

/-- What lies behind a failure, each thing behind the one before. -/
def causes : Failure → List String
  | load error => error.message :: error.cause?.toList
  | inconsistent found => [found.message]
  | cyclicInheritance _ => []
  | unknownLibrary _ => []

end Failure

namespace ModelGraph

/-- Flatten a graph, counting a cycle as a failure. -/
def flattened (graph : ModelGraph) : Except Failure Flattening :=
  graph.flatten.mapError fun interruption => .cyclicInheritance interruption.cycle

/-- The flattened graph of a document. -/
def flattenText (text : String) : Except Failure ModelGraph := do
  let graph ← (load text).mapError .load
  let flattened ← graph.flattened
  return flattened.graph

/-- The flattened graph of a file. -/
def flattenFile
    {Effect : Type → Type} [Monad Effect]
    (files : FileAccess Effect)
    (path : String) : Effect (Except Failure ModelGraph) := do
  match ← loadFile files path with
  | .error error => return .error (.load error)
  | .ok graph => return graph.flattened.map Flattening.graph

end ModelGraph

end ModelLineage
