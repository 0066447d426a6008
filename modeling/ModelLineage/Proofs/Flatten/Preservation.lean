import Mathlib.Data.List.Nodup
import ModelLineage.Generator.Run
import ModelLineage.Proofs.Flatten.Meaning
import ModelLineage.Proofs.GraphDocument.RoundTrip
import ModelLineage.Proofs.Schema.Consistency

/-!
# What flattening preserves

A sound graph stays sound when it is flattened.  The flag of an inherited field
travels with the field, and the required set is extended apart from it, but both
follow the first model that declares the name.  So flags and required sets agree
afterwards if they did before.

Every field of a flattened model was declared somewhere in the graph, and where
field names are distinct no declaration is lost.  A graph therefore refers to
unknown models after flattening exactly if it did so before.
-/

namespace ModelLineage

namespace Model

variable {image own model : Model} {inherited : List Model}

theorem field?_eq_none_iff {name : String} :
    model.field? name = none ↔ name ∉ model.fieldNames := by
  rw [← declares_iff, declares, Bool.not_eq_true, Option.isSome_eq_false_iff,
    Option.isNone_iff_eq_none]

theorem field?_eq_some_of_mem
    {field : Field}
    (distinct : model.fieldNames.Nodup)
    (member : field ∈ model.fields) :
    model.field? field.name = some field := by
  have declared : (model.field? field.name).isSome = true :=
    declares_iff.mpr (List.mem_map_of_mem member)
  rcases Option.isSome_iff_exists.mp declared with ⟨first, found⟩
  have named : first.name = field.name := by
    simpa using List.find?_some found
  rw [found, List.inj_on_of_nodup_map distinct (List.mem_of_find?_eq_some found) member named]

/-- What a list of models declares under a name is what the first of them declares that does. -/
theorem find?_flatMap_fields
    (models : List Model)
    (name : String) :
    ((models.flatMap Model.fields).find? fun field => field.name = name) =
      (models.find? (·.declares name)).bind (·.field? name) := by
  induction models with
  | nil => rfl
  | cons model models ih =>
      rw [List.flatMap_cons, List.find?_append, ih, List.find?_cons, declares, field?]
      cases found : model.fields.find? fun field => field.name = name with
      | none => rfl
      | some field =>
          simp [field?, found]

/-- Where the first declarations of models are kept, a name is declared as by the first of them. -/
theorem field?_eq_of_fields_eq
    {models : List Model}
    (same : model.fields = firstDeclarations (models.flatMap Model.fields))
    (name : String) :
    model.field? name = (models.find? (·.declares name)).bind (·.field? name) := by
  rw [field?, same, find?_firstDeclarations, find?_flatMap_fields]

theorem Sound.mem_required_iff
    {name : String}
    (sound : model.Sound) :
    name ∈ model.required ↔
      ∃ field, model.field? name = some field ∧ field.required = true := by
  constructor
  · intro demanded
    rcases List.mem_map.mp (sound.declared name demanded) with ⟨field, member, rfl⟩
    exact ⟨field, field?_eq_some_of_mem sound.distinct member,
      (sound.flagged field member).mpr demanded⟩
  · rintro ⟨field, found, flag⟩
    have named : field.name = name := by
      simpa using List.find?_some found
    rw [← named]
    exact (sound.flagged field (List.mem_of_find?_eq_some found)).mp flag

/--
What the document of a model says about each field and how the field is declared
agree on whether it is required.
-/
def WrittenAsDeclared (model : Model) : Prop :=
  List.Forall₂
    (fun field declared =>
      field.toJson =
        .object
          [("name", .string declared.name), ("type", field.type.toJson),
            ("required", .boolean declared.required)])
    model.fields (Generator.declaredFields model)

theorem Sound.writtenAsDeclared (sound : model.Sound) : model.WrittenAsDeclared := by
  rw [WrittenAsDeclared, Generator.declaredFields, List.forall₂_map_right_iff,
    List.forall₂_same]
  intro field member
  have same : model.required.contains field.name = field.required := by
    rw [Bool.eq_iff_iff, NameSet.contains_iff, sound.flagged field member]
  rw [same]
  rfl

namespace ComposedOf

theorem field?_eq
    (composed : image.ComposedOf own inherited)
    (name : String) :
    image.field? name =
      (own.field? name).or ((inherited.find? (·.declares name)).bind (·.field? name)) := by
  rw [field?, composed.fields, find?_firstDeclarations, List.find?_append,
    find?_flatMap_fields]
  rfl

/-- A model composed of sound models is sound. -/
theorem sound
    (composed : image.ComposedOf own inherited)
    (ownSound : own.Sound)
    (inheritedSound : ∀ source ∈ inherited, source.Sound) :
    image.Sound where
  distinct := composed.nodup_fieldNames
  declared := by
    intro name demanded
    apply composed.mem_fieldNames_iff.mpr
    rcases (composed.required name).mp demanded with before | ⟨_, source, found, _⟩
    · exact .inl (ownSound.declared name before)
    · exact .inr ⟨source, List.mem_of_find?_eq_some found, by simpa using List.find?_some found⟩
  flagged := by
    intro field member
    have kept := field?_eq_some_of_mem composed.nodup_fieldNames member
    rw [composed.field?_eq] at kept
    rw [composed.required]
    cases declared : own.field? field.name with
    | some ownField =>
        rw [declared] at kept
        cases kept
        have listed : field.name ∈ own.fieldNames :=
          List.mem_map_of_mem (List.mem_of_find?_eq_some declared)
        simp [ownSound.flagged field (List.mem_of_find?_eq_some declared), listed]
    | none =>
        have unlisted := field?_eq_none_iff.mp declared
        have unrequired : field.name ∉ own.required :=
          fun demanded => unlisted (ownSound.declared _ demanded)
        rw [declared, Option.none_or, Option.bind_eq_some_iff] at kept
        rcases kept with ⟨source, first, found⟩
        have sourceSound := inheritedSound source (List.mem_of_find?_eq_some first)
        simp [sourceSound.flagged field (List.mem_of_find?_eq_some found), first, unlisted,
          unrequired]

end ComposedOf

end Model

namespace ModelGraph

variable {graph flat : ModelGraph}

/-- The models that are met on a walk are models of the graph. -/
theorem Walk.subset_models
    {names : List String} {walk : List Model}
    (walked : graph.Walk names walk) :
    walk ⊆ graph.models := by
  induction walked with
  | done => exact List.nil_subset _
  | absent _ _ ih => exact ih
  | present found _ _ ihAbove ihBeside =>
      apply List.append_subset.mpr ⟨List.cons_subset.mpr ⟨?_, ihAbove⟩, ihBeside⟩
      exact NameMap.mem_values_iff.mpr ⟨_, found⟩

namespace Flattens

/-- A flattened model has no field that the graph does not declare. -/
theorem exists_declared
    {image : Model} {field : Field}
    (flattens : flat.Flattens graph)
    (grounded : ∀ name, graph.Grounded name)
    (listed : image ∈ flat.models)
    (member : field ∈ image.fields) :
    ∃ model ∈ graph.models, field ∈ model.fields := by
  rcases NameMap.mem_values_iff.mp listed with ⟨name, found⟩
  rcases flattens.exists_walk (grounded name) found with ⟨walk, walked, same⟩
  rw [same] at member
  rcases List.mem_flatMap.mp (firstDeclarations_subset _ member) with ⟨model, met, declared⟩
  exact ⟨model, walked.subset_models met, declared⟩

/-- Where field names are distinct, no field gets lost. -/
theorem exists_image
    {model : Model} {field : Field}
    (flattens : flat.Flattens graph)
    (listed : model ∈ graph.models)
    (distinct : model.fieldNames.Nodup)
    (member : field ∈ model.fields) :
    ∃ image ∈ flat.models, field ∈ image.fields := by
  rcases NameMap.mem_values_iff.mp listed with ⟨name, stored⟩
  rcases flattens.composed stored with ⟨image, found, composed⟩
  refine ⟨image, NameMap.mem_values_iff.mpr ⟨name, found⟩, ?_⟩
  rw [composed.fields, firstDeclarations_append, firstDeclarations_eq_self distinct]
  exact List.mem_append_left _ member

theorem sound
    (flattens : flat.Flattens graph)
    (grounded : ∀ name, graph.Grounded name)
    (sound : graph.Sound) :
    flat.Sound where
  keyed := flattens.wellKeyed sound.keyed
  models := by
    have each : ∀ name image, flat.get? name = some image → image.Sound := by
      intro name
      induction grounded name with
      | intro name _ ih =>
          intro image found
          rcases flattens.original found with ⟨model, stored, composed⟩
          apply composed.sound (sound.models model (NameMap.mem_values_iff.mpr ⟨name, stored⟩))
          intro source inherited
          rcases List.mem_filterMap.mp inherited with ⟨ancestor, listed, sourceFound⟩
          rcases flattens.original sourceFound with ⟨parent, known, _⟩
          exact ih ancestor
            ⟨model, stored, listed, NameMap.contains_iff.mpr ⟨parent, known⟩⟩ source sourceFound
    intro image listed
    rcases NameMap.mem_values_iff.mp listed with ⟨name, found⟩
    exact each name image found

theorem shallow
    (flattens : flat.Flattens graph)
    (grounded : ∀ name, graph.Grounded name)
    (shallow : graph.Shallow) :
    flat.Shallow := by
  intro image listed field member
  rcases flattens.exists_declared grounded listed member with ⟨model, stored, declared⟩
  exact shallow model stored field declared

/-- The ancestors of a flattened model are in the graph if those of the model were. -/
theorem ancestors_present
    (flattens : flat.Flattens graph)
    (consistent : graph.Consistent) :
    ∀ image ∈ flat.models, ∀ ancestor ∈ image.ancestors, flat.contains ancestor = true := by
  intro image listed ancestor mentioned
  rcases NameMap.mem_values_iff.mp listed with ⟨name, found⟩
  rcases flattens.original found with ⟨model, stored, composed⟩
  rw [composed.ancestors] at mentioned
  rw [flattens.contains_eq]
  exact consistent.ancestors model (NameMap.mem_values_iff.mpr ⟨name, stored⟩) ancestor mentioned

/-- What an inherited field refers to is in the graph, as it was where the field was declared. -/
theorem references_present
    (flattens : flat.Flattens graph)
    (grounded : ∀ name, graph.Grounded name)
    (consistent : graph.Consistent) :
    ∀ image ∈ flat.models, ∀ field ∈ image.fields, ∀ target,
      field.type.target? = some target → flat.contains target = true := by
  intro image listed field member target refers
  rcases flattens.exists_declared grounded listed member with ⟨model, stored, declared⟩
  rw [flattens.contains_eq]
  exact consistent.references model stored field declared target refers

/-- A sound graph is consistent before it is flattened exactly if it is so afterwards. -/
theorem consistent_iff
    (flattens : flat.Flattens graph)
    (grounded : ∀ name, graph.Grounded name)
    (sound : graph.Sound) :
    flat.Consistent ↔ graph.Consistent := by
  constructor
  · intro consistent
    constructor
    case ancestors =>
      intro model listed ancestor mentioned
      rcases NameMap.mem_values_iff.mp listed with ⟨name, stored⟩
      rcases flattens.composed stored with ⟨image, found, composed⟩
      rw [← flattens.contains_eq]
      apply consistent.ancestors image (NameMap.mem_values_iff.mpr ⟨name, found⟩)
      rw [composed.ancestors]
      exact mentioned
    case references =>
      intro model listed field member target refers
      rcases flattens.exists_image listed (sound.models model listed).distinct member with
        ⟨image, imageListed, kept⟩
      rw [← flattens.contains_eq]
      exact consistent.references image imageListed field kept target refers
    case flags =>
      intro model listed
      exact (sound.models model listed).flagged
  · intro consistent
    constructor
    case ancestors => exact flattens.ancestors_present consistent
    case references => exact flattens.references_present grounded consistent
    case flags =>
      intro image listed
      exact ((flattens.sound grounded sound).models image listed).flagged

end Flattens

/-- A walk through sound models decides what is required by the first of them that declares it. -/
theorem mem_required_iff_of_walk
    {image : Model} {walk : List Model} {name : String}
    (imageSound : image.Sound)
    (walkSound : ∀ model ∈ walk, model.Sound)
    (same : image.fields = firstDeclarations (walk.flatMap Model.fields)) :
    name ∈ image.required ↔
      ∃ source, walk.find? (·.declares name) = some source ∧ name ∈ source.required := by
  rw [imageSound.mem_required_iff, Model.field?_eq_of_fields_eq same]
  cases first : walk.find? (·.declares name) with
  | none => simp
  | some source =>
      have sourceSound := walkSound source (List.mem_of_find?_eq_some first)
      simp [sourceSound.mem_required_iff]

/--
Flattening a graph that was loaded from a text leaves every model sound, so that
its document and its declarations agree on what is required.  A name is required
by a flattened model exactly if the first model that declares it on the walk
through the original one requires it, and the graph passes the strict check
afterwards exactly if it passed before.
-/
theorem flatten_preserves_soundness
    {text : String} {flattening : Flattening}
    (loaded : load text = .ok graph)
    (done : graph.flatten = .ok flattening) :
    (∀ image ∈ flattening.graph.models, image.Sound ∧ image.WrittenAsDeclared) ∧
      (∀ name model, graph.get? name = some model →
        ∃ image walk,
          flattening.graph.get? name = some image ∧ graph.Walk [name] walk ∧
            ∀ field,
              field ∈ image.required ↔
                ∃ source, walk.find? (·.declares field) = some source ∧
                  field ∈ source.required) ∧
      (flattening.graph.check = .ok () ↔ graph.check = .ok ()) := by
  have sound := (sound_and_shallow_of_load loaded).1
  have flattens := flattens_of_flatten sound.keyed done
  have grounded := grounded_of_flatten sound.keyed done
  have flatSound := flattens.sound grounded sound
  refine ⟨?_, ?_, ?_⟩
  · intro image listed
    exact ⟨flatSound.models image listed, (flatSound.models image listed).writtenAsDeclared⟩
  · intro name model stored
    rcases flattens.composed stored with ⟨image, found, _⟩
    rcases flattens.exists_walk (grounded name) found with ⟨walk, walked, same⟩
    refine ⟨image, walk, found, walked, ?_⟩
    intro field
    apply mem_required_iff_of_walk _ _ same
    · exact flatSound.models image (NameMap.mem_values_iff.mpr ⟨name, found⟩)
    · intro met listed
      exact sound.models met (walked.subset_models listed)
  · rw [check_eq_ok_iff, check_eq_ok_iff]
    exact flattens.consistent_iff grounded sound

/--
A name that is optional where it is inherited from first and required further up,
one the other way round, and a required one that is shadowed by an optional one.
-/
def optionality : ModelGraph :=
  ofModels
    [⟨"Dog", [⟨"id", .primitive .string, false⟩], .ofList [], ["Pet", "Gone", "Toy"]⟩,
      ⟨"Pet", [⟨"tag", .primitive .string, false⟩, ⟨"owner", .reference "Dog", true⟩],
        .ofList ["owner"], ["Entity"]⟩,
      ⟨"Toy", [⟨"size", .list (.reference "Size") true, true⟩,
          ⟨"owner", .primitive .string, false⟩],
        .ofList ["size"], ["Entity", "Pet"]⟩,
      ⟨"Entity", [⟨"id", .primitive .int64, true⟩, ⟨"tag", .primitive .date, true⟩],
        .ofList ["id", "tag"], []⟩]

theorem flatten_preserves_soundness_optionality :
    ∃ text flattening,
      load text = .ok optionality ∧
        optionality.flatten = .ok flattening ∧
        (∀ image ∈ flattening.graph.models, image.Sound ∧ image.WrittenAsDeclared) ∧
        (flattening.graph.check = .ok () ↔ optionality.check = .ok ()) := by
  have loaded : load optionality.document = .ok optionality :=
    load_document_of_shallow (by decide) (by decide)
  have flattens : optionality.flatten.isOk = true := by
    decide +kernel
  rcases exists_of_isOk flattens with ⟨flattening, done⟩
  rcases flatten_preserves_soundness loaded done with ⟨models, _, check⟩
  exact ⟨_, flattening, loaded, done, models, check⟩

end ModelGraph

end ModelLineage
