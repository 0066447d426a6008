import ModelLineage.Names.NameMap
import ModelLineage.Schema.Model

/-!
# Model graphs

A model graph stores models under keys.  Building a graph from models stores
each under its own name; a graph decoded from a document may have other keys.
-/

namespace ModelLineage

/-- Models stored under keys, in ascending order of the keys. -/
abbrev ModelGraph := NameMap Model

namespace ModelGraph

/-- The models in key order. -/
def models (graph : ModelGraph) : List Model :=
  graph.values

/-- Store a model under its name. -/
def store (graph : ModelGraph) (model : Model) : ModelGraph :=
  graph.insert model.name model

/-- The graph of a list of models; of two models of one name the later counts. -/
def ofModels (models : List Model) : ModelGraph :=
  NameMap.ofList (models.map fun model => (model.name, model))

/-- Every model is stored under its own name. -/
def WellKeyed (graph : ModelGraph) : Prop :=
  ∀ entry ∈ graph.entries, entry.2.name = entry.1

instance (graph : ModelGraph) : Decidable graph.WellKeyed :=
  inferInstanceAs (Decidable (∀ entry ∈ graph.entries, entry.2.name = entry.1))

end ModelGraph

end ModelLineage
