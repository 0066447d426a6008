import ModelLineage.GraphDocument.ModelReader
import ModelLineage.GraphDocument.Writer
import ModelLineage.Storage.FileAccess

/-!
# Loading model graphs

A graph that is loaded from a document is sound: every model is stored under its
own name, its fields have distinct names, and its required names are names of
its fields.  A document may leave a model unnamed, and it may mark a required
field by its flag or by the required set; loading fills in the rest.
-/

namespace ModelLineage

/-- What is wrong with a model in a document. -/
inductive ModelFault where
  | nameMismatch (key name : String)
  | duplicateField (model field : String)
  | unknownRequiredField (model field : String)
  deriving DecidableEq, Inhabited

namespace ModelFault

/-- The wording of a fault. -/
def message : ModelFault → String
  | nameMismatch key name => "model stored under '" ++ key ++ "' is named '" ++ name ++ "'"
  | duplicateField model field =>
    "duplicate field '" ++ field ++ "' in model '" ++ model ++ "'"
  | unknownRequiredField model field =>
    "required field '" ++ field ++ "' is not declared by model '" ++ model ++ "'"

end ModelFault

/-- Why a graph cannot be loaded from a document or stored in one. -/
inductive LoadError where
  | read (error : ReadError)
  | fault (fault : ModelFault)
  | storage (fault : StorageFault)
  deriving DecidableEq, Inhabited

namespace LoadError

/-- The wording of an error. -/
def message : LoadError → String
  | read error => "JSON error: " ++ error.message
  | fault found => found.message
  | storage found => "IO error: " ++ found.message

/-- What lies behind an error, if its wording only passes that on. -/
def cause? : LoadError → Option String
  | read error => some error.message
  | fault _ => none
  | storage found => some found.message

end LoadError

namespace Model

/-- The first name on a list that stands on it before, `seen` being those before the list. -/
def firstRepeated? (seen : List String) : List String → Option String
  | [] => none
  | name :: names => if name ∈ seen then some name else firstRepeated? (name :: seen) names

/-- What is wrong with a model that a document has under a key. -/
def fault? (key : String) (model : Model) : Option ModelFault :=
  if model.name ≠ "" ∧ model.name ≠ key then some (.nameMismatch key model.name)
  else
    match firstRepeated? [] model.fieldNames with
    | some field => some (.duplicateField key field)
    | none =>
      match model.required.toList.find? fun name => name ∉ model.fieldNames with
      | some field => some (.unknownRequiredField key field)
      | none => none

/-- A model as it is loaded from under a key: named by the key, its required marks settled. -/
def settled (key : String) (model : Model) : Model :=
  { model with name := key }.reconcileRequired

end Model

namespace ModelGraph

/-- What is wrong with the models of a graph, in key order. -/
def faults (graph : ModelGraph) : List ModelFault :=
  graph.entries.filterMap fun entry => entry.2.fault? entry.1

/-- Settle the models of a graph if nothing is wrong with them; else the first fault counts. -/
def settle (graph : ModelGraph) : Except ModelFault ModelGraph :=
  match graph.faults with
  | [] => .ok (graph.map Model.settled)
  | first :: _ => .error first

/-- Load a graph from a document. -/
def load (text : String) : Except LoadError ModelGraph := do
  let graph ← (ofText text).mapError .read
  graph.settle.mapError .fault

/-- Load a graph from a file. -/
def loadFile
    {Effect : Type → Type} [Monad Effect]
    (files : FileAccess Effect)
    (path : String) : Effect (Except LoadError ModelGraph) := do
  match ← files.readText path with
  | .error fault => return .error (.storage fault)
  | .ok text => return load text

/-- Write the document of a graph into a file. -/
def saveFile
    {Effect : Type → Type} [Monad Effect]
    (files : FileAccess Effect)
    (graph : ModelGraph)
    (path : String) : Effect (Except LoadError Unit) := do
  match ← files.write path graph.document.toUTF8 with
  | .error fault => return .error (.storage fault)
  | .ok () => return .ok ()

end ModelGraph

end ModelLineage
