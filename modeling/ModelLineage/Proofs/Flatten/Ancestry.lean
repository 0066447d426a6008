import Mathlib.Logic.Relation
import ModelLineage.Proofs.Names.Lookup
import ModelLineage.Schema.ModelGraph

/-!
# Ancestry in a model graph

A model inherits from the models of the graph that it lists as ancestors; names
without a model do not count.  A name is grounded if following its ancestors
always comes to an end, and a grounded name is on no cycle.

The ancestors of a grounded name can be walked through depth first, a shared one
again at every mention.  The walk knows nothing of marks or of results kept from
earlier walks; it is the plain reading against which flattening is stated.
-/

namespace ModelLineage

namespace ModelGraph

variable {graph : ModelGraph}

theorem WellKeyed.name_eq
    {key : String} {model : Model}
    (keyed : graph.WellKeyed)
    (found : graph.get? key = some model) :
    model.name = key :=
  keyed (key, model) (NameMap.mem_entries_iff.mpr found)

theorem WellKeyed.get?_name
    {model : Model}
    (keyed : graph.WellKeyed)
    (stored : model ∈ graph.models) :
    graph.get? model.name = some model := by
  rcases NameMap.mem_values_iff.mp stored with ⟨key, found⟩
  rw [keyed.name_eq found]
  exact found

theorem WellKeyed.names_models (keyed : graph.WellKeyed) :
    graph.models.map Model.name = graph.keys := by
  rw [models, NameMap.values, NameMap.keys, List.map_map]
  apply List.map_congr_left
  intro entry member
  exact keyed entry member

theorem WellKeyed.nodup_names (keyed : graph.WellKeyed) :
    (graph.models.map Model.name).Nodup := by
  rw [keyed.names_models]
  exact graph.nodup_keys

/-- A model of the graph lists another one as an ancestor. -/
def Inherits (graph : ModelGraph) (heir source : String) : Prop :=
  ∃ model, graph.get? heir = some model ∧ source ∈ model.ancestors ∧
    graph.contains source = true

/-- Following the ancestors of a name always comes to an end. -/
def Grounded (graph : ModelGraph) (name : String) : Prop :=
  Acc (fun source heir => graph.Inherits heir source) name

/-- A grounded name does not come after itself. -/
theorem Grounded.not_transGen
    {name : String}
    (grounded : graph.Grounded name) :
    ¬ Relation.TransGen graph.Inherits name name := by
  induction grounded with
  | intro name _ ih =>
      intro cycle
      rcases Relation.TransGen.head'_iff.mp cycle with ⟨source, first, rest⟩
      exact ih source first (Relation.TransGen.tail' rest first)

/--
The models met on the way through some names: for each name that has a model
this model, then those met through its ancestors, then those of the other names.
-/
inductive Walk (graph : ModelGraph) : List String → List Model → Prop where
  | done :
      Walk graph [] []
  | absent {name : String} {names : List String} {beside : List Model}
      (missing : graph.get? name = none)
      (others : Walk graph names beside) :
      Walk graph (name :: names) beside
  | present {name : String} {names : List String} {model : Model} {above beside : List Model}
      (found : graph.get? name = some model)
      (inherited : Walk graph model.ancestors above)
      (others : Walk graph names beside) :
      Walk graph (name :: names) (model :: above ++ beside)

/-- There is only one walk through some names. -/
theorem Walk.unique
    {names : List String} {models models' : List Model}
    (walk : graph.Walk names models)
    (walk' : graph.Walk names models') :
    models = models' := by
  induction walk generalizing models' with
  | done =>
      cases walk'
      rfl
  | absent missing _ ih =>
      cases walk' with
      | absent _ others => exact ih others
      | present found _ _ => exact absurd (missing.symm.trans found) (by simp)
  | present found _ _ ihAbove ihBeside =>
      cases walk' with
      | absent missing _ => exact absurd (missing.symm.trans found) (by simp)
      | present found' inherited others =>
          cases Option.some.inj (found.symm.trans found')
          rw [ihAbove inherited, ihBeside others]

end ModelGraph

end ModelLineage
