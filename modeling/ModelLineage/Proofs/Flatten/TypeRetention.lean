import ModelLineage.Proofs.Flatten.Survey
import ModelLineage.Proofs.Flatten.Preservation
import ModelLineage.Proofs.GraphDocument.RoundTrip

/-!
# No conflict, no type lost

Conflicts are noted between a model and the flattened fields of an ancestor that
it lists.  A field several levels up is never compared with the model itself, only
with what came down of it so far.  Still the comparisons add up: if each of them
finds the same type, the type of every declaration reaches every model below, and
a type that gets lost on the way was lost at one of the comparisons.
-/

namespace ModelLineage

/-- A model has a field of the name and the type of a given one. -/
def Model.Retains (model : Model) (field : Field) : Prop :=
  ∃ kept ∈ model.fields, kept.name = field.name ∧ kept.type = field.type

theorem conflictsBetween_eq_nil_iff
    {model source : String} {kept offered : List Field} :
    conflictsBetween model kept source offered = [] ↔
      ∀ field ∈ offered, ∀ first,
        (kept.find? fun other => other.name = field.name) = some first →
          first.type = field.type := by
  rw [conflictsBetween, List.filterMap_eq_nil_iff]
  apply forall_congr'
  intro field
  apply imp_congr_right
  intro _
  cases kept.find? fun other => other.name = field.name with
  | none => simp
  | some first => simp

namespace Model

variable {image : Model} {field : Field}

/-- Where field names are distinct, a field is retained if it meets its type under its name. -/
theorem retains_iff
    (distinct : image.fieldNames.Nodup)
    (listed : field.name ∈ image.fieldNames) :
    image.Retains field ↔
      ∀ first, image.field? field.name = some first → first.type = field.type := by
  constructor
  · rintro ⟨kept, member, sameName, sameType⟩ first found
    rw [← sameName, field?_eq_some_of_mem distinct member] at found
    cases found
    exact sameType
  · intro sameType
    rcases Option.isSome_iff_exists.mp (declares_iff.mpr listed) with ⟨first, found⟩
    have named : first.name = field.name := by
      simpa using List.find?_some found
    exact ⟨first, List.mem_of_find?_eq_some found, named, sameType first found⟩

end Model

namespace ModelGraph

variable {graph flat : ModelGraph} {flattening : Flattening}

namespace Flattens

/-- A mention has no conflict if the model retains all that the ancestor has. -/
theorem conflictsAt_eq_nil_iff
    {heir source : String} {image parent : Model}
    (flattens : flat.Flattens graph)
    (inherits : graph.Inherits heir source)
    (imageFound : flat.get? heir = some image)
    (parentFound : flat.get? source = some parent) :
    flat.conflictsAt (heir, source) = [] ↔ ∀ field ∈ parent.fields, image.Retains field := by
  rcases flattens.original imageFound with ⟨own, _, composed⟩
  rw [conflictsAt, imageFound, parentFound]
  show conflictsBetween image.name image.fields source parent.fields = [] ↔ _
  rw [conflictsBetween_eq_nil_iff]
  apply forall_congr'
  intro field
  apply imp_congr_right
  intro offered
  exact (Model.retains_iff composed.nodup_fieldNames
    (flattens.mem_fieldNames_of_inherits inherits imageFound parentFound
      (List.mem_map_of_mem offered))).symm

/-- There are no conflicts if each model retains all that the ancestors it lists have. -/
theorem conflicts_eq_nil_iff
    (keyed : graph.WellKeyed)
    (flattens : flat.Flattens graph) :
    (graph.models.flatMap Model.mentions).flatMap flat.conflictsAt = [] ↔
      ∀ {heir source image parent},
        graph.Inherits heir source →
          flat.get? heir = some image →
            flat.get? source = some parent → ∀ field ∈ parent.fields, image.Retains field := by
  rw [List.flatMap_eq_nil_iff]
  constructor
  · intro silent heir source image parent inherits imageFound parentFound
    rw [← flattens.conflictsAt_eq_nil_iff inherits imageFound parentFound]
    apply silent
    rcases inherits with ⟨own, stored, listed, _⟩
    have mentioned : (heir, source) ∈ own.mentions := by
      rw [← keyed.name_eq stored]
      exact List.mem_map_of_mem listed
    exact List.mem_flatMap.mpr ⟨own, NameMap.mem_values_iff.mpr ⟨heir, stored⟩, mentioned⟩
  · rintro retained ⟨heir, source⟩ listed
    rcases List.mem_flatMap.mp listed with ⟨own, member, mentioned⟩
    rcases List.mem_map.mp mentioned with ⟨_, sourceListed, same⟩
    cases same
    have stored := keyed.get?_name member
    rcases flattens.composed stored with ⟨image, imageFound, _⟩
    cases parentFound : flat.get? source with
    | none =>
        rw [conflictsAt, imageFound, parentFound]
    | some parent =>
        rcases flattens.original parentFound with ⟨parentOwn, parentStored, _⟩
        have inherits : graph.Inherits own.name source :=
          ⟨own, stored, sourceListed, NameMap.contains_iff.mpr ⟨parentOwn, parentStored⟩⟩
        apply (flattens.conflictsAt_eq_nil_iff inherits imageFound parentFound).mpr
        exact retained inherits imageFound parentFound

/-- A flattened model retains what the model itself declares. -/
theorem retains_own
    {name : String} {own image : Model} {field : Field}
    (flattens : flat.Flattens graph)
    (distinct : own.fieldNames.Nodup)
    (stored : graph.get? name = some own)
    (found : flat.get? name = some image)
    (declared : field ∈ own.fields) :
    image.Retains field := by
  rcases flattens.composed stored with ⟨image', found', composed⟩
  cases Option.some.inj (found.symm.trans found')
  have kept : image.field? field.name = some field := by
    rw [composed.field?_eq, Model.field?_eq_some_of_mem distinct declared]
    rfl
  exact ⟨field, List.mem_of_find?_eq_some kept, rfl, rfl⟩

/-- Every field of a flattened model is declared by a model that it reaches. -/
theorem exists_declaration
    {name : String} {image : Model} {field : Field}
    (flattens : flat.Flattens graph)
    (grounded : graph.Grounded name)
    (found : flat.get? name = some image)
    (listed : field ∈ image.fields) :
    ∃ source model,
      Relation.ReflTransGen graph.Inherits name source ∧
        graph.get? source = some model ∧ field ∈ model.fields := by
  induction grounded generalizing image field with
  | intro name _ ih =>
      rcases flattens.original found with ⟨own, stored, composed⟩
      rw [composed.fields] at listed
      rcases List.mem_append.mp (firstDeclarations_subset _ listed) with declared | inherited
      · exact ⟨name, own, .refl, stored, declared⟩
      · rcases List.mem_flatMap.mp inherited with ⟨parent, parentListed, declared⟩
        rcases List.mem_filterMap.mp parentListed with ⟨ancestor, mentioned, parentFound⟩
        rcases flattens.original parentFound with ⟨parentOwn, parentStored, _⟩
        have inherits : graph.Inherits name ancestor :=
          ⟨own, stored, mentioned, NameMap.contains_iff.mpr ⟨parentOwn, parentStored⟩⟩
        rcases ih ancestor inherits parentFound declared with
          ⟨source, model, reaches, sourceStored, sourceDeclared⟩
        exact ⟨source, model, .head inherits reaches, sourceStored, sourceDeclared⟩

/-- If every listed ancestor is retained, then so is all that can be reached. -/
theorem retains_reachable
    {heir source : String} {model image : Model} {field : Field}
    (flattens : flat.Flattens graph)
    (sound : graph.Sound)
    (retained : ∀ {heir source image parent},
      graph.Inherits heir source →
        flat.get? heir = some image →
          flat.get? source = some parent → ∀ field ∈ parent.fields, image.Retains field)
    (reaches : Relation.ReflTransGen graph.Inherits heir source)
    (stored : graph.get? source = some model)
    (declared : field ∈ model.fields)
    (found : flat.get? heir = some image) :
    image.Retains field := by
  induction reaches using Relation.ReflTransGen.head_induction_on generalizing image with
  | refl =>
      have distinct := (sound.models model (NameMap.mem_values_iff.mpr ⟨source, stored⟩)).distinct
      exact flattens.retains_own distinct stored found declared
  | @head heir middle inherits _ ih =>
      rcases inherits with ⟨own, ownStored, listed, present⟩
      rcases NameMap.contains_iff.mp present with ⟨middleOwn, middleStored⟩
      rcases flattens.composed middleStored with ⟨parent, parentFound, _⟩
      rcases ih parentFound with ⟨passedOn, member, sameName, sameType⟩
      rcases retained ⟨own, ownStored, listed, present⟩ found parentFound passedOn member with
        ⟨kept, keptMember, keptName, keptType⟩
      exact ⟨kept, keptMember, keptName.trans sameName, keptType.trans sameType⟩

end Flattens

/--
Flattening a graph that was loaded finds no conflict exactly if no type was lost:
every model has, for every declaration of a model that it reaches by its ancestors,
itself included, a field of that name and that type.
-/
theorem flatten_conflicts_empty_iff
    {text : String}
    (loaded : load text = .ok graph)
    (done : graph.flatten = .ok flattening) :
    flattening.report.conflicts = #[] ↔
      ∀ heir ∈ graph.keys,
        ∃ image, flattening.graph.get? heir = some image ∧
          ∀ source model,
            Relation.ReflTransGen graph.Inherits heir source →
              graph.get? source = some model →
                ∀ field ∈ model.fields, image.Retains field := by
  have sound := (sound_and_shallow_of_load loaded).1
  have flattens := flattens_of_flatten sound.keyed done
  have listed := (report_perm_of_flatten sound.keyed done).2
  have empty :
      flattening.report.conflicts = #[] ↔
        (graph.models.flatMap Model.mentions).flatMap flattening.graph.conflictsAt = [] := by
    rw [← Array.toList_eq_nil_iff]
    exact ⟨fun none => (none ▸ listed).nil_eq.symm, fun none => (none ▸ listed).eq_nil⟩
  rw [empty, flattens.conflicts_eq_nil_iff sound.keyed]
  constructor
  · intro retained heir key
    rcases NameMap.mem_keys_iff.mp key with ⟨own, ownStored⟩
    rcases flattens.composed ownStored with ⟨image, found, _⟩
    refine ⟨image, found, ?_⟩
    intro source model reaches stored field declared
    exact flattens.retains_reachable sound retained reaches stored declared found
  · intro everywhere heir source image parent inherits imageFound parentFound field offered
    -- What the ancestor has it has from a model further up, which the heir reaches as well.
    have grounded := grounded_of_flatten sound.keyed done source
    rcases flattens.exists_declaration grounded parentFound offered with
      ⟨origin, model, reaches, stored, declared⟩
    rcases flattens.original imageFound with ⟨own, ownStored, _⟩
    rcases everywhere heir (NameMap.mem_keys_iff.mpr ⟨own, ownStored⟩) with
      ⟨image', imageFound', each⟩
    cases Option.some.inj (imageFound.symm.trans imageFound')
    exact each origin model (.head inherits reaches) stored field declared

/--
A name declared with another type three levels up, where the model between has
already given way to it on one branch, and a name that all agree on.
-/
def disagreeing : ModelGraph :=
  ofModels
    [⟨"Puppy", [⟨"age", .primitive .int32, false⟩], ∅, ["Dog", "Pet"]⟩,
      ⟨"Dog", [], ∅, ["Pet", "Toy"]⟩,
      ⟨"Pet", [⟨"id", .primitive .uuid, true⟩], .ofList ["id"], ["Entity"]⟩,
      ⟨"Toy", [⟨"id", .primitive .uuid, true⟩, ⟨"age", .primitive .int32, false⟩],
        .ofList ["id"], []⟩,
      ⟨"Entity", [⟨"id", .primitive .int64, true⟩], .ofList ["id"], []⟩]

theorem flatten_conflicts_empty_iff_disagreeing :
    ∃ flattening,
      load disagreeing.document = .ok disagreeing ∧
        disagreeing.flatten = .ok flattening ∧
        flattening.report.conflicts ≠ #[] ∧
        ¬ ∀ heir ∈ disagreeing.keys,
            ∃ image, flattening.graph.get? heir = some image ∧
              ∀ source model,
                Relation.ReflTransGen disagreeing.Inherits heir source →
                  disagreeing.get? source = some model →
                    ∀ field ∈ model.fields, image.Retains field := by
  have loaded : load disagreeing.document = .ok disagreeing :=
    load_document_of_shallow (by decide) (by decide)
  have conflicting :
      (disagreeing.flatten.toOption.map fun done => done.report.conflicts.isEmpty) =
        some false := by
    decide +kernel
  cases done : disagreeing.flatten with
  | error interruption =>
      rw [done] at conflicting
      cases conflicting
  | ok flattening =>
      rw [done] at conflicting
      have found : flattening.report.conflicts ≠ #[] := by
        intro none
        simp [Except.toOption, none] at conflicting
      exact ⟨flattening, loaded, rfl, found,
        fun each => found ((flatten_conflicts_empty_iff loaded done).mpr each)⟩

end ModelGraph

end ModelLineage
