import Mathlib.Data.Set.Card
import ModelLineage.Proofs.Flatten.TypeRetention

/-!
# Runs of a generator

A generator may be asked to process one graph after the other.  A call that fails
leaves it as it was, so in the end it remembers what the last call that did not
fail has returned, and its closing banner lists just that.

For each model the banner gives the number of its flattened fields.  This is the
number of names that the model and the models it reaches by its ancestors declare:
no name gets lost on the way and none is counted twice, however often the ancestors
meet.
-/

namespace ModelLineage

/-! ## Counting declared names -/

namespace ModelGraph

variable {graph flat : ModelGraph}

/-- The flattened graph, if the ancestors run into no cycle. -/
def flattened? (graph : ModelGraph) : Option ModelGraph :=
  graph.flatten.toOption.map Flattening.graph

theorem flattened?_eq_none_iff : graph.flattened? = none ↔ graph.flatten.isOk = false := by
  rw [flattened?]
  cases graph.flatten with
  | error interruption => exact iff_of_true rfl rfl
  | ok flattening => exact iff_of_false (Option.some_ne_none _) Bool.noConfusion

/-- The field names that a model and the models it reaches by its ancestors declare. -/
def declaredFrom (graph : ModelGraph) (heir : String) : Set String :=
  { name | ∃ source model,
      Relation.ReflTransGen graph.Inherits heir source ∧
        graph.get? source = some model ∧ name ∈ model.fieldNames }

namespace Flattens

/-- A flattened model has just the field names that are declared along its ancestors. -/
theorem mem_fieldNames_iff
    {heir name : String} {image : Model}
    (flattens : flat.Flattens graph)
    (grounded : graph.Grounded heir)
    (found : flat.get? heir = some image) :
    name ∈ image.fieldNames ↔ name ∈ graph.declaredFrom heir := by
  constructor
  · intro listed
    rcases List.mem_map.mp listed with ⟨field, member, rfl⟩
    rcases flattens.exists_declaration grounded found member with
      ⟨source, model, reaches, stored, declared⟩
    exact ⟨source, model, reaches, stored, List.mem_map_of_mem declared⟩
  · rintro ⟨source, model, reaches, stored, declared⟩
    rcases flattens.composed stored with ⟨parent, parentFound, composed⟩
    apply flattens.fieldNames_subset_of_reaches reaches found parentFound
    exact composed.mem_fieldNames_iff.mpr (.inl declared)

/-- A flattened model has one field for each name that is declared along its ancestors. -/
theorem ncard_declaredFrom
    {heir : String} {image : Model}
    (flattens : flat.Flattens graph)
    (grounded : graph.Grounded heir)
    (found : flat.get? heir = some image) :
    (graph.declaredFrom heir).ncard = image.fields.length := by
  rcases flattens.original found with ⟨_, _, composed⟩
  have names : graph.declaredFrom heir = (image.fieldNames.toFinset : Set String) := by
    ext name
    rw [Finset.mem_coe, List.mem_toFinset]
    exact (flattens.mem_fieldNames_iff grounded found).symm
  rw [names, Set.ncard_coe_finset, List.toFinset_card_of_nodup composed.nodup_fieldNames,
    Model.fieldNames, List.length_map]

end Flattens

end ModelGraph

/-! ## The banner of a graph -/

namespace Banner

/-- A framed line is as wide as the frame, or as its text asks for. -/
theorem length_framed (text : String) : (framed text).length = max 80 (3 + text.length) := by
  simp only [framed, String.length_append, String.length_ofList, List.length_replicate, width]
  show 2 + text.length + (80 - 3 - text.length) + 1 = max 80 (3 + text.length)
  omega

/-- The lines between the rules, for a graph that was flattened. -/
theorem lines_of_flatten
    {graph : ModelGraph} {flattening : Flattening}
    (keyed : graph.WellKeyed)
    (done : graph.flatten = .ok flattening) :
    lines (some flattening.graph) =
      [rule, framed "Thanks for using BOAT Swift OpenAPI Generator.",
          framed ("Post processed " ++ graph.size.repr ++ " models:")] ++
        (graph.keys.map fun name =>
          framed
            ("  " ++ name ++ " (" ++ (graph.declaredFrom name).ncard.repr ++ " fields)")) ++
        [rule] := by
  have flattens := ModelGraph.flattens_of_flatten keyed done
  have flatKeyed := flattens.wellKeyed keyed
  have size : flattening.graph.size = graph.size := by
    have sameKeys := congrArg List.length flattens.keys
    rw [NameMap.keys, NameMap.keys, List.length_map, List.length_map] at sameKeys
    exact sameKeys
  have models :
      flattening.graph.models.map (framed ∘ modelText) =
        graph.keys.map fun name =>
          framed
            ("  " ++ name ++ " (" ++ (graph.declaredFrom name).ncard.repr ++ " fields)") := by
    rw [← flattens.keys, ModelGraph.models, NameMap.values, NameMap.keys, List.map_map,
      List.map_map]
    apply List.map_congr_left
    rintro ⟨name, image⟩ member
    have found : flattening.graph.get? name = some image := NameMap.mem_entries_iff.mp member
    have named : image.name = name := flatKeyed.name_eq found
    have count := flattens.ncard_declaredFrom (ModelGraph.grounded_of_flatten keyed done name)
      found
    rw [Function.comp_apply, Function.comp_apply, Function.comp_apply, modelText, named, count]
  rw [lines, texts, ← models, ← List.map_map, size]
  simp

end Banner

/-! ## Runs -/

namespace Generator

/-- Process graphs one after the other, with what each call returned. -/
def processAll (generator : Generator) :
    List ModelGraph → Generator × List (Except Interruption Flattening)
  | [] => (generator, [])
  | graph :: graphs =>
    let (generator, outcome) := generator.process graph
    let (generator, outcomes) := generator.processAll graphs
    (generator, outcome :: outcomes)

/-- The graphs that calls returned, those that failed left out. -/
def returned (outcomes : List (Except Interruption Flattening)) : List ModelGraph :=
  outcomes.filterMap fun outcome => outcome.toOption.map Flattening.graph

variable {generator : Generator} {graph : ModelGraph}

theorem processAll_cons (generator : Generator) (graph : ModelGraph) (graphs : List ModelGraph) :
    generator.processAll (graph :: graphs) =
      (((generator.process graph).1.processAll graphs).1,
        (generator.process graph).2 :: ((generator.process graph).1.processAll graphs).2) :=
  rfl

/-- A call that fails leaves the generator as it was. -/
theorem process_eq_self_of_error
    {interruption : Interruption}
    (failed : (generator.process graph).2 = .error interruption) :
    (generator.process graph).1 = generator := by
  rw [process] at failed ⊢
  cases outcome : graph.flatten with
  | error found => rfl
  | ok flattening =>
      rw [outcome] at failed
      cases failed

/-- A call returns the flattened graph, if there is one, whatever was processed before. -/
theorem toOption_process :
    (generator.process graph).2.toOption.map Flattening.graph = graph.flattened? := by
  rw [process, ModelGraph.flattened?]
  cases graph.flatten with
  | error found => rfl
  | ok flattening => rfl

/-- What is remembered after a call is what it returned, or else what was remembered before. -/
theorem processed_process :
    (generator.process graph).1.processed =
      ((generator.process graph).2.toOption.map Flattening.graph).or generator.processed := by
  rw [process]
  cases graph.flatten with
  | error found => rfl
  | ok flattening => rfl

/-- What is remembered after a run is what the last call returned that did not fail. -/
theorem processed_processAll (generator : Generator) (graphs : List ModelGraph) :
    (generator.processAll graphs).1.processed =
      (returned (generator.processAll graphs).2).getLast?.or generator.processed := by
  induction graphs generalizing generator with
  | nil => rfl
  | cons graph graphs ih =>
      rw [processAll_cons, ih, processed_process, returned, returned, List.filterMap_cons]
      cases (generator.process graph).2.toOption.map Flattening.graph with
      | none => rfl
      | some last =>
          rw [List.getLast?_cons]
          cases (List.filterMap _ _).getLast? with
          | none => rfl
          | some later => rfl

/-- What the calls of a run return are the flattened forms of the graphs that have one. -/
theorem returned_processAll (generator : Generator) (graphs : List ModelGraph) :
    returned (generator.processAll graphs).2 = graphs.filterMap ModelGraph.flattened? := by
  induction graphs generalizing generator with
  | nil => rfl
  | cons graph graphs ih =>
      rw [processAll_cons, returned, List.filterMap_cons, List.filterMap_cons,
        toOption_process, ← ih (generator.process graph).1]
      rfl

/-- The banner of a new generator after a run describes the last graph returned. -/
theorem banner_processAll (settings : Settings) (graphs : List ModelGraph) :
    ((ofSettings settings).processAll graphs).1.banner =
      Banner.text (returned ((ofSettings settings).processAll graphs).2).getLast? := by
  rw [banner, processed_processAll, ofSettings, Option.or_none]

/--
A call that fails leaves a generator as it was.  After any run of a new generator
its banner describes what the last call returned that did not fail, and says that
there was none if all failed.  If that call was for a well-keyed graph, the banner
lists the models of the graph in key order, each with the number of names that are
declared along its ancestors.  A rule is eighty number signs.  A framed line is its
text between number signs, filled up with blanks to eighty characters, and it has as
many more as its text asks for.
-/
theorem banner_lists_last_returned
    (settings : Settings)
    (graphs : List ModelGraph) :
    (∀ (generator : Generator) (graph : ModelGraph) (interruption : Interruption),
        (generator.process graph).2 = .error interruption →
          (generator.process graph).1 = generator) ∧
      ((ofSettings settings).processAll graphs).1.banner =
        Banner.text (returned ((ofSettings settings).processAll graphs).2).getLast? ∧
      ((∀ graph ∈ graphs, graph.flatten.isOk = false) →
        ((ofSettings settings).processAll graphs).1.banner =
          "\n".intercalate
            [Banner.rule, Banner.framed "Thanks for using BOAT Swift OpenAPI Generator.",
              Banner.framed "No models were post processed.", Banner.rule]) ∧
      (∀ before graph after,
        graphs = before ++ graph :: after →
          graph.WellKeyed →
            graph.flatten.isOk = true →
              (∀ later ∈ after, later.flatten.isOk = false) →
                ((ofSettings settings).processAll graphs).1.banner =
                  "\n".intercalate
                    ([Banner.rule,
                        Banner.framed "Thanks for using BOAT Swift OpenAPI Generator.",
                        Banner.framed ("Post processed " ++ graph.size.repr ++ " models:")] ++
                      (graph.keys.map fun name =>
                        Banner.framed
                          ("  " ++ name ++ " (" ++ (graph.declaredFrom name).ncard.repr ++
                            " fields)")) ++
                      [Banner.rule])) ∧
      Banner.rule = String.ofList (List.replicate 80 '#') ∧
      (∀ text, Banner.framed text =
        "# " ++ text ++ String.ofList (List.replicate (77 - text.length) ' ') ++ "#") ∧
      Banner.rule.length = 80 ∧
      ∀ text, (Banner.framed text).length = max 80 (3 + text.length) := by
  have described := banner_processAll settings graphs
  refine ⟨fun _ _ _ => process_eq_self_of_error, described, ?_, ?_, rfl, fun _ => rfl, ?_,
    Banner.length_framed⟩
  · intro fail
    have none : graphs.filterMap ModelGraph.flattened? = [] :=
      List.filterMap_eq_nil_iff.mpr fun graph listed =>
        ModelGraph.flattened?_eq_none_iff.mpr (fail graph listed)
    rw [described, returned_processAll, none]
    rfl
  · rintro before graph after rfl keyed succeeds fail
    rcases exists_of_isOk succeeds with ⟨flattening, done⟩
    have found : graph.flattened? = some flattening.graph := by
      rw [ModelGraph.flattened?, done]
      rfl
    have none : after.filterMap ModelGraph.flattened? = [] :=
      List.filterMap_eq_nil_iff.mpr fun later listed =>
        ModelGraph.flattened?_eq_none_iff.mpr (fail later listed)
    rw [described, returned_processAll, List.filterMap_append,
      List.filterMap_cons_some found, none, List.getLast?_concat, Banner.text,
      Banner.lines_of_flatten keyed done]
  · rw [Banner.rule, String.length_ofList, List.length_replicate, Banner.width]

/-- A name declared at both ends of a chain, whose top is reached twice, and a missing ancestor. -/
def litter : ModelGraph :=
  .ofModels
    [⟨"Dog", [⟨"bark", .primitive .string, false⟩], ∅, ["Pet", "Gone", "Animal"]⟩,
      ⟨"Pet", [⟨"id", .primitive .string, false⟩], ∅, ["Animal"]⟩,
      ⟨"Animal", [⟨"id", .primitive .int64, true⟩, ⟨"born", .primitive .date, false⟩],
        .ofList ["id"], []⟩]

/-- Two models that inherit from each other. -/
def loop : ModelGraph :=
  .ofModels [⟨"Hen", [], ∅, ["Egg"]⟩, ⟨"Egg", [], ∅, ["Hen"]⟩]

theorem banner_lists_last_returned_between_failures :
    ((ofSettings .standard).processAll [loop, ∅, litter, loop]).1.banner =
      "\n".intercalate
        ([Banner.rule, Banner.framed "Thanks for using BOAT Swift OpenAPI Generator.",
            Banner.framed "Post processed 3 models:"] ++
          (["Animal", "Dog", "Pet"].map fun name =>
            Banner.framed
              ("  " ++ name ++ " (" ++ (litter.declaredFrom name).ncard.repr ++ " fields)")) ++
          [Banner.rule]) := by
  have fails : loop.flatten.isOk = false := by
    decide +kernel
  have succeeds : litter.flatten.isOk = true := by
    decide +kernel
  rcases banner_lists_last_returned .standard [loop, ∅, litter, loop] with
    ⟨_, _, _, explicit, _⟩
  refine (explicit [loop, ∅] litter [loop] rfl (by decide) succeeds ?_).trans rfl
  intro later listed
  rw [List.mem_singleton.mp listed]
  exact fails

end Generator

end ModelLineage
