import ModelLineage.Proofs.Flatten.Renaming

/-!
# Further ancestors

A model is given further ancestors after those that it lists already.  Whatever
they bring comes after what the model has, so its flattened fields are the first
among the new ones and are required as before: the ancestors listed earlier are
no heirs of the model, and nothing of them changes.

Many documents list an ancestor beside the models that lead to it anyway.  Such an
ancestor, or one without a model, brings nothing at all.  The graph stays free of
cycles, and no flattened model has other fields or other required names than
before, those of the heirs included.
-/

namespace ModelLineage

namespace Model

/-- A model with further ancestors, one after the other. -/
def inheritingAll (model : Model) (sources : List String) : Model :=
  sources.foldl inheriting model

theorem inheritingAll_eq (model : Model) (sources : List String) :
    model.inheritingAll sources =
      { model with ancestors := model.ancestors ++ sources } := by
  induction sources generalizing model with
  | nil => rw [inheritingAll, List.foldl_nil, List.append_nil]
  | cons source sources ih =>
      have unfolded :
          model.inheritingAll (source :: sources) =
            (model.inheriting source).inheritingAll sources := rfl
      rw [unfolded, ih, inheriting, List.append_assoc, List.singleton_append]

@[simp]
theorem nameless_inheritingAll (model : Model) (sources : List String) :
    (model.inheritingAll sources).nameless = model.nameless := by
  rw [inheritingAll_eq]
  rfl

namespace ComposedOf

variable {image image' own : Model} {inherited further : List Model}

/-- A model is composed of what it is composed of without names. -/
theorem of_nameless
    (composed : image.nameless.ComposedOf own.nameless (inherited.map Model.nameless))
    (name : image.name = own.name)
    (ancestors : image.ancestors = own.ancestors) :
    image.ComposedOf own inherited where
  name := name
  ancestors := ancestors
  fields := by
    have same := composed.fields
    rw [List.flatMap_map] at same
    exact same
  required := by
    intro demanded
    have same := composed.required demanded
    rw [exists_find?_map_nameless_iff] at same
    exact same

/-- What a model takes from further ancestors comes after what it has. -/
theorem keeps
    (composed : image.ComposedOf own inherited)
    (composed' : image'.ComposedOf own (inherited ++ further)) :
    image.fields <+: image'.fields ∧
      ∀ name ∈ image.fieldNames, (name ∈ image'.required ↔ name ∈ image.required) := by
  constructor
  · rw [composed'.fields, List.flatMap_append, ← List.append_assoc, firstDeclarations_append,
      ← composed.fields]
    exact List.prefix_append _ _
  · intro name listed
    rw [composed'.required, composed.required, List.find?_append]
    rcases composed.mem_fieldNames_iff.mp listed with declared | ⟨source, member, declared⟩
    · simp [declared]
    · have found : (inherited.find? (·.declares name)).isSome = true :=
        List.find?_isSome.mpr ⟨source, member, declared⟩
      rcases Option.isSome_iff_exists.mp found with ⟨first, isFirst⟩
      rw [isFirst, Option.some_or]

/-- A model takes nothing from further ancestors whose names it has. -/
theorem absorb
    (composed : image.ComposedOf own inherited)
    (covered : ∀ source ∈ further, source.fieldNames ⊆ image.fieldNames) :
    image.ComposedOf own (inherited ++ further) where
  name := composed.name
  ancestors := composed.ancestors
  fields := by
    rw [List.flatMap_append, ← List.append_assoc, firstDeclarations_append_of_subset,
      composed.fields]
    intro field member
    rcases List.mem_flatMap.mp member with ⟨source, listed, declared⟩
    have known := covered source listed (List.mem_map_of_mem declared)
    rw [fieldNames, composed.fields] at known
    exact mem_names_firstDeclarations.mp known
  required := by
    intro name
    rw [composed.required, List.find?_append]
    apply or_congr Iff.rfl
    apply and_congr_right
    intro undeclared
    cases found : inherited.find? (·.declares name) with
    | some first => simp
    | none =>
        have absent : further.find? (·.declares name) = none := by
          apply List.find?_eq_none.mpr
          intro source listed declared
          rcases composed.mem_fieldNames_iff.mp
              (covered source listed (declares_iff.mp declared)) with own | ⟨first, member, has⟩
          · exact undeclared own
          · exact List.find?_eq_none.mp found first member has
        rw [absent, Option.none_or]

end ComposedOf

end Model

namespace ModelGraph

variable {graph flat flat' : ModelGraph} {heir : String} {sources : List String}

/-- A graph in which one model has further ancestors. -/
def extend (graph : ModelGraph) (heir : String) (sources : List String) : ModelGraph :=
  NameMap.map
    (fun name model => if name = heir then model.inheritingAll sources else model)
    graph

theorem get?_extend (graph : ModelGraph) (heir : String) (sources : List String) (name : String) :
    (graph.extend heir sources).get? name =
      (graph.get? name).map fun model =>
        if name = heir then model.inheritingAll sources else model :=
  NameMap.get?_map ..

@[simp]
theorem keys_extend : (graph.extend heir sources).keys = graph.keys :=
  NameMap.keys_map ..

theorem get?_extend_heir :
    (graph.extend heir sources).get? heir =
      (graph.get? heir).map fun model => model.inheritingAll sources := by
  rw [get?_extend]
  simp only [if_true]

theorem get?_extend_of_ne
    {name : String}
    (other : name ≠ heir) :
    (graph.extend heir sources).get? name = graph.get? name := by
  rw [get?_extend]
  simp only [if_neg other, Option.map_id']

/-- Without names, no model tells whether the graph has been extended. -/
theorem map_nameless_get?_extend (name : String) :
    ((graph.extend heir sources).get? name).map Model.nameless =
      (graph.get? name).map Model.nameless := by
  by_cases same : name = heir
  · subst same
    rw [get?_extend_heir, Option.map_map]
    congr 1
    funext model
    exact Model.nameless_inheritingAll model sources
  · rw [get?_extend_of_ne same]

@[simp]
theorem contains_extend (name : String) :
    (graph.extend heir sources).contains name = graph.contains name := by
  rw [NameMap.contains, NameMap.contains, get?_extend, Option.isSome_map]

theorem WellKeyed.extend
    (keyed : graph.WellKeyed)
    (heir : String)
    (sources : List String) :
    (graph.extend heir sources).WellKeyed := by
  intro entry member
  have found := NameMap.mem_entries_iff.mp member
  rw [get?_extend] at found
  rcases Option.map_eq_some_iff.mp found with ⟨model, stored, same⟩
  rw [← same, ← keyed.name_eq stored]
  split
  · rw [Model.inheritingAll_eq]
  · rfl

/-! ## Ancestors that come first -/

/-- Where a listed name has a model, so have all that lead to it. -/
theorem reaches_of_lists
    {name source : String}
    (listed : Relation.ReflTransGen graph.Lists name source)
    (present : graph.contains source = true) :
    graph.contains name = true ∧ Relation.ReflTransGen graph.Inherits name source := by
  induction listed using Relation.ReflTransGen.head_induction_on with
  | refl => exact ⟨present, .refl⟩
  | head first _ ih =>
      rcases first with ⟨model, found, lists⟩
      exact ⟨NameMap.contains_iff.mpr ⟨model, found⟩, .head ⟨model, found, lists, ih.1⟩ ih.2⟩

/-- A name that does not stand for the extended model has the same model as before. -/
theorem copied_extend_of_ne
    {name : String}
    (other : name ≠ heir) :
    graph.Copied (graph.extend heir sources) id name := by
  show Option.Rel _ (graph.get? name) ((graph.extend heir sources).get? name)
  rw [get?_extend_of_ne other]
  cases graph.get? name with
  | none => exact .none
  | some model => exact .some ⟨rfl, rfl, (List.map_id _).symm⟩

/-- Without cycles, the ancestors of a model do not change with the model. -/
theorem map_nameless_of_listed
    {own : Model} {ancestor : String}
    (flattens : flat.Flattens graph)
    (flattens' : flat'.Flattens (graph.extend heir sources))
    (grounded : ∀ name, graph.Grounded name)
    (stored : graph.get? heir = some own)
    (listed : ancestor ∈ own.ancestors) :
    (flat'.get? ancestor).map Model.nameless = (flat.get? ancestor).map Model.nameless := by
  have copied : ∀ name, Relation.ReflTransGen graph.Lists ancestor name →
      graph.Copied (graph.extend heir sources) id name := by
    intro name reached
    apply copied_extend_of_ne
    rintro rfl
    rcases reaches_of_lists reached (NameMap.contains_iff.mpr ⟨own, stored⟩) with
      ⟨present, reaches⟩
    have comesAgain : Relation.TransGen graph.Inherits name name :=
      .head' ⟨own, stored, listed, present⟩ reaches
    exact (grounded name).not_transGen comesAgain
  exact map_nameless_of_copied flattens flattens' (grounded ancestor) copied

/-- The flattened model is the beginning of the one with further ancestors. -/
theorem Flattens.keeps_extend
    {own : Model}
    (flattens : flat.Flattens graph)
    (flattens' : flat'.Flattens (graph.extend heir sources))
    (grounded : ∀ name, graph.Grounded name)
    (stored : graph.get? heir = some own) :
    ∃ image image',
      flat.get? heir = some image ∧ flat'.get? heir = some image' ∧
        image.fields <+: image'.fields ∧
        ∀ name ∈ image.fieldNames, (name ∈ image'.required ↔ name ∈ image.required) := by
  have stored' :
      (graph.extend heir sources).get? heir = some (own.inheritingAll sources) := by
    rw [get?_extend_heir, stored, Option.map_some]
  rcases flattens.composed stored with ⟨image, found, composed⟩
  rcases flattens'.composed stored' with ⟨image', found', composed'⟩
  have sameSources :
      (own.ancestors.filterMap flat'.get?).map Model.nameless =
        (own.ancestors.filterMap flat.get?).map Model.nameless := by
    rw [List.map_filterMap, List.map_filterMap]
    exact List.filterMap_congr fun ancestor listed =>
      map_nameless_of_listed flattens flattens' grounded stored listed
  have bare := composed'.nameless
  rw [Model.nameless_inheritingAll, Model.inheritingAll_eq, List.filterMap_append,
    List.map_append, sameSources] at bare
  have kept := composed.nameless.keeps bare
  exact ⟨image, image', found, found', kept⟩

/-! ## Ancestors that bring nothing -/

/-- The names among some that have a model are further up from an heir already. -/
def Redundant (graph : ModelGraph) (heir : String) (sources : List String) : Prop :=
  ∀ source ∈ sources,
    graph.contains source = false ∨ Relation.TransGen graph.Inherits heir source

theorem Redundant.transGen_of_inherits
    {name source : String}
    (redundant : graph.Redundant heir sources)
    (inherits : (graph.extend heir sources).Inherits name source) :
    Relation.TransGen graph.Inherits name source := by
  rcases inherits with ⟨model, found, listed, present⟩
  rw [contains_extend] at present
  by_cases same : name = heir
  · subst same
    rw [get?_extend_heir] at found
    rcases Option.map_eq_some_iff.mp found with ⟨own, stored, rfl⟩
    rw [Model.inheritingAll_eq, List.mem_append] at listed
    rcases listed with before | further
    · exact .single ⟨own, stored, before, present⟩
    · rcases redundant source further with missing | reached
      · rw [missing] at present
        cases present
      · exact reached
  · rw [get?_extend_of_ne same] at found
    exact .single ⟨model, found, listed, present⟩

theorem Redundant.fieldNames_subset
    {source : String} {image parent : Model}
    (redundant : graph.Redundant heir sources)
    (flattens : flat.Flattens graph)
    (further : source ∈ sources)
    (imageFound : flat.get? heir = some image)
    (parentFound : flat.get? source = some parent) :
    parent.fieldNames ⊆ image.fieldNames := by
  rcases redundant source further with missing | reached
  · rw [← flattens.contains_eq, NameMap.contains, parentFound] at missing
    cases missing
  · exact flattens.fieldNames_subset_of_reaches reached.to_reflTransGen imageFound parentFound

/-- The flattened form of a graph with such ancestors is the flattened form, with them. -/
theorem Redundant.flattens_extend
    (redundant : graph.Redundant heir sources)
    (flattens : flat.Flattens graph) :
    (flat.extend heir sources).Flattens (graph.extend heir sources) where
  keys := by rw [keys_extend, keys_extend, flattens.keys]
  composed := by
    intro name model found
    have unchanged : ∀ names : List String,
        (names.filterMap (flat.extend heir sources).get?).map Model.nameless =
          (names.filterMap flat.get?).map Model.nameless := by
      intro names
      rw [List.map_filterMap, List.map_filterMap]
      exact List.filterMap_congr fun other _ => map_nameless_get?_extend other
    by_cases same : name = heir
    · subst same
      rw [get?_extend_heir] at found
      rcases Option.map_eq_some_iff.mp found with ⟨own, stored, rfl⟩
      rcases flattens.composed stored with ⟨image, imageFound, composed⟩
      have covered : ∀ parent ∈ sources.filterMap flat.get?,
          parent.fieldNames ⊆ image.fieldNames := by
        intro parent listed
        rcases List.mem_filterMap.mp listed with ⟨source, further, parentFound⟩
        exact redundant.fieldNames_subset flattens further imageFound parentFound
      refine ⟨image.inheritingAll sources, ?_, ?_⟩
      · rw [get?_extend_heir, imageFound, Option.map_some]
      · apply Model.ComposedOf.of_nameless
        · rw [unchanged, Model.nameless_inheritingAll, Model.nameless_inheritingAll,
            Model.inheritingAll_eq own, List.filterMap_append]
          exact (composed.absorb covered).nameless
        · rw [Model.inheritingAll_eq, Model.inheritingAll_eq]
          exact composed.name
        · rw [Model.inheritingAll_eq, Model.inheritingAll_eq, composed.ancestors]
    · rw [get?_extend_of_ne same] at found
      rcases flattens.composed found with ⟨image, imageFound, composed⟩
      refine ⟨image, ?_, ?_⟩
      · rw [get?_extend_of_ne same, imageFound]
      · apply Model.ComposedOf.of_nameless _ composed.name composed.ancestors
        rw [unchanged]
        exact composed.nameless

/-- Such ancestors close no cycle. -/
theorem Redundant.exists_flatten_extend
    {flattening : Flattening}
    (redundant : graph.Redundant heir sources)
    (keyed : graph.WellKeyed)
    (done : graph.flatten = .ok flattening) :
    ∃ extended, (graph.extend heir sources).flatten = .ok extended := by
  cases outcome : (graph.extend heir sources).flatten with
  | ok extended => exact ⟨extended, rfl⟩
  | error interruption =>
      rcases (isCircle_of_flatten_error (keyed.extend heir sources) outcome).transGen with
        ⟨name, comesAgain⟩
      have before : Relation.TransGen graph.Inherits name name :=
        Relation.TransGen.closed (fun _ _ => redundant.transGen_of_inherits) _ _ comesAgain
      exact absurd before (grounded_of_flatten keyed done name).not_transGen

/--
A model of a graph that can be flattened is given further ancestors.  If the new
graph can be flattened too, then the flattened fields of the model come first
among the new ones, and of their names the same are required.  If all further
ancestors lack a model or are reached by the model already, then the new graph can
be flattened, and all flattened models have the same fields and required names.
-/
theorem flatten_extend_agrees
    {flattening : Flattening} {own : Model}
    (keyed : graph.WellKeyed)
    (done : graph.flatten = .ok flattening)
    (stored : graph.get? heir = some own) :
    (∀ extended, (graph.extend heir sources).flatten = .ok extended →
        ∃ image image',
          flattening.graph.get? heir = some image ∧
            extended.graph.get? heir = some image' ∧
            image.fields <+: image'.fields ∧
            ∀ name ∈ image.fieldNames, (name ∈ image'.required ↔ name ∈ image.required)) ∧
      (graph.Redundant heir sources →
        ∃ extended,
          (graph.extend heir sources).flatten = .ok extended ∧
            extended.graph.keys = flattening.graph.keys ∧
            ∀ name image, flattening.graph.get? name = some image →
              ∃ image', extended.graph.get? name = some image' ∧
                image'.fields = image.fields ∧ image'.required = image.required) := by
  have keyed' := keyed.extend heir sources
  have flattens := flattens_of_flatten keyed done
  refine ⟨?keeps, ?redundant⟩
  case keeps =>
    intro extended doneToo
    exact flattens.keeps_extend (flattens_of_flatten keyed' doneToo)
      (grounded_of_flatten keyed done) stored
  case redundant =>
    intro redundant
    rcases redundant.exists_flatten_extend keyed done with ⟨extended, doneToo⟩
    have same : extended.graph = flattening.graph.extend heir sources :=
      (flattens_of_flatten keyed' doneToo).unique (redundant.flattens_extend flattens)
        (grounded_of_flatten keyed' doneToo)
    refine ⟨extended, doneToo, ?_, ?_⟩
    · rw [same, keys_extend]
    · intro name image found
      have bare : (extended.graph.get? name).map Model.nameless = some image.nameless := by
        rw [same, map_nameless_get?_extend, found, Option.map_some]
      rcases Option.map_eq_some_iff.mp bare with ⟨image', found', alike⟩
      have sameFields : image'.nameless.fields = image.nameless.fields := by rw [alike]
      have sameRequired : image'.nameless.required = image.nameless.required := by rw [alike]
      exact ⟨image', found', sameFields, sameRequired⟩

/-- A dog is a pet and a pet an entity; a toy disagrees with an entity about a name. -/
def litter : ModelGraph :=
  ofModels
    [⟨"Dog", [⟨"id", .primitive .string, false⟩], ∅, ["Pet"]⟩,
      ⟨"Entity", [⟨"id", .primitive .int64, true⟩, ⟨"born", .primitive .date, true⟩],
        .ofList ["id", "born"], []⟩,
      ⟨"Pet", [⟨"tag", .primitive .string, false⟩], ∅, ["Entity"]⟩,
      ⟨"Puppy", [], ∅, ["Dog"]⟩,
      ⟨"Toy", [⟨"born", .primitive .string, false⟩, ⟨"size", .primitive .int32, false⟩], ∅, []⟩]

theorem redundant_litter : litter.Redundant "Dog" ["Entity", "Gone", "Pet"] := by
  have dogStored : (litter.get? "Dog").map Model.ancestors = some ["Pet"] := by
    decide
  have petStored : (litter.get? "Pet").map Model.ancestors = some ["Entity"] := by
    decide
  rcases Option.map_eq_some_iff.mp dogStored with ⟨dog, dogFound, dogAncestors⟩
  rcases Option.map_eq_some_iff.mp petStored with ⟨pet, petFound, petAncestors⟩
  have toPet : litter.Inherits "Dog" "Pet" :=
    ⟨dog, dogFound, by simp [dogAncestors], NameMap.contains_iff.mpr ⟨pet, petFound⟩⟩
  have toEntity : litter.Inherits "Pet" "Entity" :=
    ⟨pet, petFound, by simp [petAncestors], by decide⟩
  intro source listed
  simp only [List.mem_cons, List.not_mem_nil, or_false] at listed
  rcases listed with rfl | rfl | rfl
  · exact .inr (.tail (.single toPet) toEntity)
  · exact .inl (by decide)
  · exact .inr (.single toPet)

theorem flatten_extend_agrees_litter :
    ∃ flattening extended repeating image image' imageToo,
      litter.WellKeyed ∧ litter.flatten = .ok flattening ∧
        (litter.extend "Dog" ["Toy", "Pet"]).flatten = .ok extended ∧
        (litter.extend "Dog" ["Entity", "Gone", "Pet"]).flatten = .ok repeating ∧
        flattening.graph.get? "Dog" = some image ∧
        extended.graph.get? "Dog" = some image' ∧
        repeating.graph.get? "Dog" = some imageToo ∧
        image.fields <+: image'.fields ∧
        imageToo.fields = image.fields ∧ imageToo.required = image.required := by
  have keyed : litter.WellKeyed := by
    decide
  have flattens : litter.flatten.isOk = true := by
    decide +kernel
  have flattensToo : (litter.extend "Dog" ["Toy", "Pet"]).flatten.isOk = true := by
    decide +kernel
  have found : (litter.get? "Dog").isSome = true := by
    decide
  rcases exists_of_isOk flattens with ⟨flattening, done⟩
  rcases exists_of_isOk flattensToo with ⟨extended, doneToo⟩
  rcases Option.isSome_iff_exists.mp found with ⟨dog, stored⟩
  rcases (flatten_extend_agrees keyed done stored).1 extended doneToo with
    ⟨image, image', kept, kept', first, _⟩
  rcases (flatten_extend_agrees keyed done stored).2 redundant_litter with
    ⟨repeating, doneAgain, _, each⟩
  rcases each "Dog" image kept with ⟨imageToo, keptToo, sameFields, sameRequired⟩
  exact ⟨flattening, extended, repeating, image, image', imageToo, keyed, done, doneToo,
    doneAgain, kept, kept', keptToo, first, sameFields, sameRequired⟩

end ModelGraph

end ModelLineage
