import ModelLineage.Names.NameIndex
import ModelLineage.Schema.ModelGraph

/-!
# Consistency of a model graph

Flattening tolerates ancestors that no model answers to.  The strict check does
not: it wants every ancestor and every referenced model in the graph and every
required flag to agree with the required set of its model.
-/

namespace ModelLineage

/-- An ancestor name without a model. -/
structure DanglingAncestor where
  model : String
  ancestor : String
  deriving DecidableEq, Inhabited

/-- What the strict check finds wrong with a graph. -/
inductive Inconsistency where
  | danglingAncestor (model ancestor : String)
  | unknownReference (model field target : String)
  | requiredMismatch (model field : String)
  deriving DecidableEq

namespace Inconsistency

/-- The wording of an inconsistency. -/
def message : Inconsistency → String
  | danglingAncestor model ancestor =>
    "model '" ++ model ++ "' lists unknown ancestor '" ++ ancestor ++ "'"
  | unknownReference model field target =>
    "field '" ++ field ++ "' of model '" ++ model ++ "' references unknown model '" ++
      target ++ "'"
  | requiredMismatch model field =>
    "required marker of field '" ++ field ++ "' in model '" ++ model ++
      "' disagrees with the required set"

end Inconsistency

namespace ModelGraph

/-- Every mention of an ancestor without a model: models in key order, mentions in list order. -/
def danglingMentions (graph : ModelGraph) : List DanglingAncestor :=
  let index := graph.index
  graph.models.flatMap fun model =>
    (model.ancestors.filter fun ancestor => !index.contains ancestor).map fun ancestor =>
      ⟨model.name, ancestor⟩

/-- The fields of all models in key order, each with its model. -/
def declarations (graph : ModelGraph) : List (Model × Field) :=
  graph.models.flatMap fun model => model.fields.map fun field => (model, field)

/-- What is wrong with the type of a field: it refers to a model that the graph lacks. -/
def unknownReference?
    {graph : ModelGraph}
    (index : graph.Index)
    (model : Model)
    (field : Field) : Option Inconsistency :=
  match field.type.target? with
  | none => none
  | some target =>
    if index.contains target then none
    else some (.unknownReference model.name field.name target)

/-- What is wrong with the flag of a field: it disagrees with the required set. -/
def requiredMismatch? (model : Model) (field : Field) : Option Inconsistency :=
  if field.required = model.required.contains field.name then none
  else some (.requiredMismatch model.name field.name)

/--
All inconsistencies.  Dangling ancestors anywhere come before unknown references
anywhere, and these before flags that disagree with the required set.
-/
def inconsistencies (graph : ModelGraph) : List Inconsistency :=
  let index := graph.index
  (graph.danglingMentions.map fun mention =>
      .danglingAncestor mention.model mention.ancestor) ++
    (graph.declarations.filterMap fun (model, field) => unknownReference? index model field) ++
    (graph.declarations.filterMap fun (model, field) => requiredMismatch? model field)

/-- The strict check: a graph passes if it has no inconsistency, else the first is its fault. -/
def check (graph : ModelGraph) : Except Inconsistency Unit :=
  match graph.inconsistencies with
  | [] => .ok ()
  | first :: _ => .error first

end ModelGraph

end ModelLineage
