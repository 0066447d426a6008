import ModelLineage.Proofs.Flatten.FlattenedForm
import ModelLineage.Proofs.Outcomes

/-!
# The meaning of flattening

A flattened model has the first declaration of every name that is declared on
the walk through the model and its ancestors, as declared there.  Its required
names are those of the model and, for a name that the model does not declare,
what the first of its ancestors says that has the name.
-/

namespace ModelLineage

namespace ModelGraph

variable {graph flat : ModelGraph}

theorem Walk.cons
    {name : String} {names : List String} {first others : List Model}
    (walk : graph.Walk [name] first)
    (rest : graph.Walk names others) :
    graph.Walk (name :: names) (first ++ others) := by
  cases walk with
  | absent missing none =>
      cases none
      exact .absent missing rest
  | present found inherited none =>
      cases none
      rw [List.append_nil]
      exact .present found inherited rest

/-- The walk through some names declares first what their flattened models have. -/
def WalkDeclares (graph flat : ModelGraph) (names : List String) : Prop :=
  ∃ walk, graph.Walk names walk ∧
    firstDeclarations ((names.filterMap flat.get?).flatMap Model.fields) =
      firstDeclarations (walk.flatMap Model.fields)

theorem WalkDeclares.of_missing
    {name : String}
    (flattens : flat.Flattens graph)
    (missing : graph.get? name = none) :
    graph.WalkDeclares flat [name] := by
  refine ⟨[], .absent missing .done, ?_⟩
  rw [List.filterMap_cons_none (flattens.get?_eq_none_iff.mpr missing)]
  rfl

theorem WalkDeclares.of_each
    {names : List String}
    (each : ∀ name ∈ names, graph.WalkDeclares flat [name]) :
    graph.WalkDeclares flat names := by
  induction names with
  | nil => exact ⟨[], .done, rfl⟩
  | cons name names ih =>
      rcases each name List.mem_cons_self with ⟨first, walk, sameFirst⟩
      rcases ih fun other listed => each other (List.mem_cons_of_mem _ listed) with
        ⟨others, rest, sameRest⟩
      refine ⟨first ++ others, walk.cons rest, ?_⟩
      rw [← List.singleton_append, List.filterMap_append, List.flatMap_append,
        List.flatMap_append]
      exact firstDeclarations_append_congr sameFirst sameRest

/-- Following the ancestors of a grounded name, the walk declares what is flattened. -/
theorem WalkDeclares.of_grounded
    {name : String}
    (flattens : flat.Flattens graph)
    (grounded : graph.Grounded name) :
    graph.WalkDeclares flat [name] := by
  induction grounded with
  | intro name _ ih =>
      cases stored : graph.get? name with
      | none => exact .of_missing flattens stored
      | some model =>
          have inherited : graph.WalkDeclares flat model.ancestors := by
            apply WalkDeclares.of_each
            intro ancestor listed
            cases known : graph.get? ancestor with
            | none => exact .of_missing flattens known
            | some parent =>
                exact ih ancestor
                  ⟨model, stored, listed, NameMap.contains_iff.mpr ⟨parent, known⟩⟩
          rcases inherited with ⟨above, walk, same⟩
          rcases flattens.composed stored with ⟨image, found, composed⟩
          refine ⟨model :: above ++ [], .present stored walk .done, ?_⟩
          rw [List.filterMap_cons_some found, List.filterMap_nil, List.append_nil,
            List.flatMap_singleton, composed.fields, firstDeclarations_firstDeclarations,
            List.flatMap_cons]
          exact firstDeclarations_append_congr rfl same

/-- The fields of a flattened model are the first declarations on a walk through its name. -/
theorem Flattens.exists_walk
    {name : String} {image : Model}
    (flattens : flat.Flattens graph)
    (grounded : graph.Grounded name)
    (found : flat.get? name = some image) :
    ∃ walk, graph.Walk [name] walk ∧
      image.fields = firstDeclarations (walk.flatMap Model.fields) := by
  rcases WalkDeclares.of_grounded flattens grounded with ⟨walk, walked, same⟩
  rcases flattens.original found with ⟨_, _, composed⟩
  refine ⟨walk, walked, ?_⟩
  rw [List.filterMap_cons_some found, List.filterMap_nil, List.flatMap_singleton,
    firstDeclarations_eq_self composed.nodup_fieldNames] at same
  exact same

/--
Flattening keeps the keys of a well-keyed graph and the name and ancestors of
every model.  The fields of a flattened model are the first declarations on the
walk through its name, and its required names follow the same precedence.
-/
theorem flatten_agrees_with_walk
    {flattening : Flattening}
    (keyed : graph.WellKeyed)
    (done : graph.flatten = .ok flattening) :
    flattening.graph.keys = graph.keys ∧
      ∀ name model, graph.get? name = some model →
        ∃ image, flattening.graph.get? name = some image ∧
          image.name = model.name ∧
          image.ancestors = model.ancestors ∧
          (∃ walk, graph.Walk [name] walk ∧
            image.fields = firstDeclarations (walk.flatMap Model.fields)) ∧
          ∀ field,
            field ∈ image.required ↔
              field ∈ model.required ∨
                field ∉ model.fieldNames ∧
                  ∃ parent,
                    (model.ancestors.filterMap flattening.graph.get?).find?
                        (·.declares field) = some parent ∧
                      field ∈ parent.required := by
  have flattens := flattens_of_flatten keyed done
  refine ⟨flattens.keys, ?_⟩
  intro name model stored
  rcases flattens.composed stored with ⟨image, found, composed⟩
  exact ⟨image, found, composed.name, composed.ancestors,
    flattens.exists_walk (grounded_of_flatten keyed done name) found, composed.required⟩

/--
A diamond with a missing ancestor, a name declared twice and a required name
that only an ancestor declares.
-/
def diamond : ModelGraph :=
  ofModels
    [⟨"Dog", [⟨"id", .primitive .string, false⟩], .ofList ["ghost"], ["Pet", "Gone", "Toy"]⟩,
      ⟨"Pet", [⟨"tag", .primitive .string, true⟩, ⟨"tag", .reference "Dog", false⟩],
        .ofList ["tag"], ["Entity"]⟩,
      ⟨"Toy", [⟨"size", .primitive .int32, false⟩], .ofList ["born"], ["Entity", "Pet"]⟩,
      ⟨"Entity", [⟨"id", .primitive .int64, true⟩, ⟨"born", .primitive .date, false⟩],
        .ofList ["id"], []⟩]

theorem flatten_agrees_with_walk_diamond :
    ∃ flattening image walk,
      diamond.WellKeyed ∧
        diamond.flatten = .ok flattening ∧
        flattening.graph.keys = diamond.keys ∧
        flattening.graph.get? "Dog" = some image ∧
        diamond.Walk ["Dog"] walk ∧
        image.fields = firstDeclarations (walk.flatMap Model.fields) := by
  have keyed : diamond.WellKeyed := by
    decide
  have flattens : diamond.flatten.isOk = true := by
    decide +kernel
  have stored : (diamond.get? "Dog").isSome = true := by
    decide
  rcases Option.isSome_iff_exists.mp stored with ⟨model, found⟩
  rcases exists_of_isOk flattens with ⟨flattening, done⟩
  rcases flatten_agrees_with_walk keyed done with ⟨keys, each⟩
  rcases each "Dog" model found with ⟨image, kept, _, _, ⟨walk, walked, same⟩, _⟩
  exact ⟨flattening, image, walk, keyed, done, keys, kept, walked, same⟩

end ModelGraph

end ModelLineage
