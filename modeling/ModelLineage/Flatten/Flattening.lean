import ModelLineage.Flatten.Descent

/-!
# Flattening a model graph

A flattened model carries its own fields and after them those of its ancestors,
each name once.  The descent works out the lineages by name; here they are handed
back to the models, and the models are stored anew under their names.
-/

namespace ModelLineage

/-- A flattened graph with what was found and logged on the way. -/
structure Flattening where
  graph : ModelGraph
  report : Report
  events : Array Event
  deriving DecidableEq

/-- Give a model the fields and the required set of a lineage. -/
def Lineage.applyTo (lineage : Lineage) (model : Model) : Model :=
  { model with fields := lineage.fields, required := .ofIndex lineage.required }

namespace ModelGraph

/--
Hand each lineage to the first model of its name.  A later model of the same
name keeps its own fields.
-/
def handOut (lineages : Std.TreeMap String Lineage) : List Model → List Model
  | [] => []
  | model :: models =>
    match lineages[model.name]? with
    | some lineage => lineage.applyTo model :: handOut (lineages.erase model.name) models
    | none => model :: handOut lineages models

/-- The flattened graph, or the cycle that the ancestors run into. -/
def flatten (graph : ModelGraph) : Except Interruption Flattening :=
  (Descent.ofGraph graph).map fun descent =>
    ⟨ofModels (handOut descent.lineages graph.models), descent.report, descent.events⟩

end ModelGraph

end ModelLineage
