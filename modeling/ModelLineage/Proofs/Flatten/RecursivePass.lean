import Mathlib.Data.Finset.Card
import Mathlib.Data.List.Basic
import ModelLineage.Flatten.Flattening
import ModelLineage.Proofs.Flatten.FirstDeclarations

/-!
# The recursive pass

Flattening written as one would say it: visit each model unless it has been
visited, and on a visit first visit the ancestors that it lists and merge what
they have gathered.  The names that are in progress are the path of the recursion,
and the names that are done are those with an entry.  Fields stand on plain lists,
and a name is looked for from the front.

The recursion ends as the names on its path are distinct names of models.  It is
as deep as the chains of ancestors are long, so it is no way to flatten graphs of
any size; it is here to say what flattening amounts to.
-/

namespace ModelLineage

/-- What a visit has gathered for a model: fields, each name once, and required names. -/
structure Gathering where
  fields : List Field
  required : NameSet

/-- What the visits so far have stored and found. -/
structure Visits where
  entries : NameMap Gathering
  report : Report
  events : Array Event

namespace Gathering

/-- What a model brings itself. -/
def ofModel (model : Model) : Gathering :=
  ⟨firstDeclarations model.fields, model.required⟩

/-- Merge one inherited field, listing the conflict that this brings. -/
def mergeField
    (model source : String)
    (inherited : Gathering)
    (merged : Gathering × Array FieldConflict)
    (field : Field) : Gathering × Array FieldConflict :=
  match merged.1.fields.find? fun kept => kept.name = field.name with
  | none =>
    (⟨merged.1.fields ++ [field],
        if field.name ∈ inherited.required then merged.1.required.insert field.name
        else merged.1.required⟩,
      merged.2)
  | some kept =>
    if kept.type = field.type then merged
    else (merged.1, merged.2.push ⟨model, field.name, kept.type, field.type, source⟩)

/-- Merge what a source has gathered, field by field. -/
def merge
    (gathering : Gathering)
    (model source : String)
    (inherited : Gathering) : Gathering × Array FieldConflict :=
  inherited.fields.foldl (mergeField model source inherited) (gathering, #[])

/-- A model with what was gathered for it. -/
def applyTo (gathering : Gathering) (model : Model) : Model :=
  { model with fields := gathering.fields, required := gathering.required }

end Gathering

namespace Visits

/-- Before the first visit. -/
def start : Visits :=
  ⟨∅, .empty, #[]⟩

/-- Report an ancestor without a model. -/
def noteDangling (visits : Visits) (model ancestor : String) : Visits :=
  { visits with
    report :=
      { visits.report with dangling := visits.report.dangling.push ⟨model, ancestor⟩ }
    events := visits.events.push (.unknownAncestor model ancestor) }

/-- Merge the entry stored under a name, if there is one, and report the conflicts. -/
def mergeEntry
    (visits : Visits)
    (model source : String)
    (gathering : Gathering) : Visits × Gathering :=
  match visits.entries.get? source with
  | none => (visits, gathering)
  | some inherited =>
    let merged := gathering.merge model source inherited
    ({ visits with
        report :=
          { visits.report with conflicts := visits.report.conflicts ++ merged.2 }
        events :=
          visits.events ++
            merged.2.map fun conflict =>
              .shadowedField conflict.model conflict.field conflict.source },
      merged.1)

/-- Store what was gathered for a model under its name. -/
def store (visits : Visits) (model : Model) (gathering : Gathering) : Visits :=
  { visits with
    entries := visits.entries.insert model.name gathering
    events :=
      visits.events.push
        (.flattenedModel model.name model.fields.length gathering.fields.length) }

end Visits

namespace ModelGraph

/-- How many names of models are not on a path. -/
def countOff (graph : ModelGraph) (path : List String) : Nat :=
  ((graph.models.map Model.name).toFinset \ path.toFinset).card

theorem countOff_append_lt
    {graph : ModelGraph} {path : List String} {model : Model}
    (stored : model ∈ graph.models)
    (fresh : model.name ∉ path) :
    graph.countOff (path ++ [model.name]) < graph.countOff path := by
  apply Finset.card_lt_card
  apply (Finset.ssubset_iff_of_subset _).mpr
  · have named : model.name ∈ graph.models.map Model.name := List.mem_map_of_mem stored
    exact ⟨model.name, by simp [fresh, named], by simp⟩
  · apply Finset.sdiff_subset_sdiff (Finset.Subset.refl _)
    intro name listed
    simp_all

mutual

/-- Visit a model: gather for it, then store what came together. -/
def visit
    (graph : ModelGraph)
    (path : List String)
    (visits : Visits)
    (model : Model)
    (_stored : model ∈ graph.models)
    (_fresh : model.name ∉ path) : Except Interruption Visits := do
  let (visits, gathering) ←
    gather graph (path ++ [model.name]) model visits (.ofModel model) model.ancestors
  return visits.store model gathering
termination_by (graph.countOff path, 0)
decreasing_by exact .left _ _ (countOff_append_lt ‹_› ‹_›)

/-- Gather for a model from the ancestors in their order, visiting those that were not. -/
def gather
    (graph : ModelGraph)
    (path : List String)
    (model : Model)
    (visits : Visits)
    (gathering : Gathering) : List String → Except Interruption (Visits × Gathering)
  | [] => .ok (visits, gathering)
  | ancestor :: ancestors =>
    match found : graph.get? ancestor with
    | none =>
      gather graph path model (visits.noteDangling model.name ancestor) gathering ancestors
    | some parent =>
      if entered : parent.name ∈ path then
        .error ⟨path.dropWhile (· ≠ parent.name) ++ [parent.name], visits.events⟩
      else do
        let visits ←
          if visits.entries.contains parent.name then .ok visits
          else visit graph path visits parent (Descent.mem_models_of_get? found) entered
        let (visits, gathering) := visits.mergeEntry model.name ancestor gathering
        gather graph path model visits gathering ancestors
termination_by ancestors => (graph.countOff path, ancestors.length + 1)

end

/-- Visit some models one after the other, each unless it has been visited. -/
def visitAll
    (graph : ModelGraph)
    (visits : Visits)
    (models : List Model)
    (stored : ∀ model ∈ models, model ∈ graph.models) : Except Interruption Visits :=
  match models with
  | [] => .ok visits
  | model :: later =>
    (if visits.entries.contains model.name then .ok visits
      else visit graph [] visits model (stored model List.mem_cons_self) List.not_mem_nil) >>=
      fun visits =>
        visitAll graph visits later fun other listed =>
          stored other (List.mem_cons_of_mem _ listed)

/--
Give each model the entry of its name, but only the first model of a name; `seen`
are the names before.
-/
def assemble (entries : NameMap Gathering) (seen : List String) : List Model → List Model
  | [] => []
  | model :: models =>
    let taken := if model.name ∈ seen then none else entries.get? model.name
    (taken.map fun gathering => gathering.applyTo model).getD model ::
      assemble entries (model.name :: seen) models

/-- Flatten a graph by visiting its models in key order. -/
def flattenRecursively (graph : ModelGraph) : Except Interruption Flattening := do
  let visits ← graph.visitAll .start graph.models fun _ listed => listed
  return ⟨ofModels (assemble visits.entries [] graph.models), visits.report, visits.events⟩

end ModelGraph

end ModelLineage
