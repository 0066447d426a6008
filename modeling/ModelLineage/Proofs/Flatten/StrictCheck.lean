import ModelLineage.Proofs.Flatten.Preservation

/-!
# The strict check after flattening

The strict check compares flags with required sets field by field.  A required name
that no field of the model bears is nothing to it.  Flattening may bring such a name
a field from further up, with the flag that it has there, and then the flag is out
of step if the name is optional where it is declared.

This is all that can go wrong.  A graph that passes the strict check passes it after
flattening exactly if what a model requires is required by the first model that
declares it, and otherwise the answer is about a flag, never about an ancestor or a
reference.
-/

namespace ModelLineage

namespace ModelGraph

variable {graph flat : ModelGraph}

/-! ## Graphs made by storing models -/

theorem WellKeyed.store
    (keyed : graph.WellKeyed)
    (model : Model) :
    (graph.store model).WellKeyed := by
  intro entry member
  have found : (graph.store model).get? entry.1 = some entry.2 :=
    NameMap.mem_entries_iff.mp member
  rw [ModelGraph.store, NameMap.get?_insert] at found
  split at found
  · rename_i same
    rw [← Option.some.inj found, same]
  · exact keyed.name_eq found

/-- The graph of models that are stored one after the other. -/
def stored (models : List Model) : ModelGraph :=
  models.foldl store ∅

theorem wellKeyed_stored (models : List Model) : (stored models).WellKeyed := by
  have onto : ∀ graph : ModelGraph, graph.WellKeyed → (models.foldl store graph).WellKeyed := by
    induction models with
    | nil => exact fun _ keyed => keyed
    | cons model models ih => exact fun graph keyed => ih (graph.store model) (keyed.store model)
  exact onto ∅ fun _ member => absurd member List.not_mem_nil

/-! ## Flags -/

/-- What a model requires is required by the first model on its walk that declares it. -/
def RequiresAsDeclared (graph : ModelGraph) : Prop :=
  ∀ heir model, graph.get? heir = some model →
    ∀ name ∈ model.required, ∀ walk, graph.Walk [heir] walk →
      ∀ source, walk.find? (·.declares name) = some source → name ∈ source.required

/-- Where required names are names of fields, the first model that declares one requires it. -/
theorem requiresAsDeclared_of_declared
    (declared : ∀ model ∈ graph.models, ∀ name ∈ model.required, name ∈ model.fieldNames) :
    graph.RequiresAsDeclared := by
  intro heir model found name demanded walk walked source first
  have listed := declared model (NameMap.mem_values_iff.mpr ⟨heir, found⟩) name demanded
  cases walked with
  | absent missing _ => exact absurd (missing.symm.trans found) (Option.some_ne_none model).symm
  | present found' _ _ =>
      cases Option.some.inj (found.symm.trans found')
      have here : model.declares name = true := Model.declares_iff.mpr listed
      rw [List.cons_append, List.find?_cons, here] at first
      cases first
      exact demanded

namespace Flattens

/-- A field of a flattened model comes from the first model on the walk that declares its name. -/
theorem field?_eq_of_walk
    {heir name : String} {image : Model} {walk : List Model}
    (flattens : flat.Flattens graph)
    (grounded : graph.Grounded heir)
    (found : flat.get? heir = some image)
    (walked : graph.Walk [heir] walk) :
    image.field? name = (walk.find? (·.declares name)).bind (·.field? name) := by
  rcases flattens.exists_walk grounded found with ⟨walk', walked', same⟩
  cases walked.unique walked'
  exact Model.field?_eq_of_fields_eq same name

/-- If the flags agree after flattening, models require what is required where it is declared. -/
theorem requiresAsDeclared
    (flattens : flat.Flattens graph)
    (grounded : ∀ name, graph.Grounded name)
    (consistent : graph.Consistent)
    (flatConsistent : flat.Consistent) :
    graph.RequiresAsDeclared := by
  intro heir model stored name demanded walk walked source first
  rcases flattens.composed stored with ⟨image, found, composed⟩
  have declares : source.declares name = true := by
    simpa using List.find?_some first
  rcases Option.isSome_iff_exists.mp declares with ⟨field, declared⟩
  have named : field.name = name := by
    simpa using List.find?_some declared
  have kept : image.field? name = some field := by
    rw [flattens.field?_eq_of_walk (grounded heir) found walked, first]
    exact declared
  have flagged : field.required = true := by
    apply (flatConsistent.flags image (NameMap.mem_values_iff.mpr ⟨heir, found⟩) field
      (List.mem_of_find?_eq_some kept)).mpr
    rw [named]
    exact (composed.required name).mpr (.inl demanded)
  rw [← named]
  exact (consistent.flags source (walked.subset_models (List.mem_of_find?_eq_some first)) field
    (List.mem_of_find?_eq_some declared)).mp flagged

/-- What a model requires is flagged in its flattened form if it is required where declared. -/
theorem flagged_of_mem_required
    {heir : String} {model image : Model} {field : Field}
    (flattens : flat.Flattens graph)
    (grounded : graph.Grounded heir)
    (consistent : graph.Consistent)
    (agree : graph.RequiresAsDeclared)
    (stored : graph.get? heir = some model)
    (found : flat.get? heir = some image)
    (kept : image.field? field.name = some field)
    (demanded : field.name ∈ model.required) :
    field.required = true := by
  rcases flattens.exists_walk grounded found with ⟨walk, walked, _⟩
  rw [flattens.field?_eq_of_walk grounded found walked, Option.bind_eq_some_iff] at kept
  rcases kept with ⟨source, first, declared⟩
  have listed := walked.subset_models (List.mem_of_find?_eq_some first)
  apply (consistent.flags source listed field (List.mem_of_find?_eq_some declared)).mpr
  exact agree heir model stored field.name demanded walk walked source first

/-- If models require what is required where it is declared, the flags agree after flattening. -/
theorem flags_of_requiresAsDeclared
    {heir : String} {image : Model}
    (flattens : flat.Flattens graph)
    (grounded : graph.Grounded heir)
    (consistent : graph.Consistent)
    (agree : graph.RequiresAsDeclared)
    (found : flat.get? heir = some image) :
    ∀ field ∈ image.fields, field.required = true ↔ field.name ∈ image.required := by
  induction grounded generalizing image with
  | intro heir above ih =>
      intro field member
      rcases flattens.original found with ⟨model, stored, composed⟩
      have kept := Model.field?_eq_some_of_mem composed.nodup_fieldNames member
      have flagged := flattens.flagged_of_mem_required (Acc.intro heir above) consistent agree
        stored found kept
      rw [composed.field?_eq] at kept
      rw [composed.required]
      cases declared : model.field? field.name with
      | some own =>
          rw [declared] at kept
          cases kept
          have ownMember := List.mem_of_find?_eq_some declared
          have listed : field.name ∈ model.fieldNames := List.mem_map_of_mem ownMember
          have ownFlag := consistent.flags model (NameMap.mem_values_iff.mpr ⟨heir, stored⟩) field
            ownMember
          simp [ownFlag, listed]
      | none =>
          have unlisted := Model.field?_eq_none_iff.mp declared
          rw [declared, Option.none_or, Option.bind_eq_some_iff] at kept
          rcases kept with ⟨parent, first, offered⟩
          rcases List.mem_filterMap.mp (List.mem_of_find?_eq_some first) with
            ⟨ancestor, mentioned, parentFound⟩
          rcases flattens.original parentFound with ⟨_, parentStored, _⟩
          have inherits : graph.Inherits heir ancestor :=
            ⟨model, stored, mentioned, NameMap.contains_iff.mpr ⟨_, parentStored⟩⟩
          have parentFlag := ih ancestor inherits parentFound field
            (List.mem_of_find?_eq_some offered)
          constructor
          · intro flag
            exact .inr ⟨unlisted, parent, first, parentFlag.mp flag⟩
          · rintro (demanded | ⟨_, parent', first', demanded⟩)
            · exact flagged demanded
            · cases Option.some.inj (first.symm.trans first')
              exact parentFlag.mpr demanded

/-- A consistent graph stays so exactly if models require what is required where declared. -/
theorem consistent_iff_requiresAsDeclared
    (flattens : flat.Flattens graph)
    (grounded : ∀ name, graph.Grounded name)
    (consistent : graph.Consistent) :
    flat.Consistent ↔ graph.RequiresAsDeclared := by
  constructor
  · exact flattens.requiresAsDeclared grounded consistent
  · intro agree
    constructor
    case ancestors => exact flattens.ancestors_present consistent
    case references => exact flattens.references_present grounded consistent
    case flags =>
      intro image listed
      rcases NameMap.mem_values_iff.mp listed with ⟨heir, found⟩
      exact flattens.flags_of_requiresAsDeclared (grounded heir) consistent agree found

end Flattens

/-- Where all ancestors and references are present, the strict check answers about a flag. -/
theorem exists_requiredMismatch_of_check
    {found : Inconsistency}
    (ancestors : ∀ model ∈ graph.models, ∀ ancestor ∈ model.ancestors,
      graph.contains ancestor = true)
    (references : ∀ model ∈ graph.models, ∀ field ∈ model.fields, ∀ target,
      field.type.target? = some target → graph.contains target = true)
    (answered : graph.check = .error found) :
    ∃ model field, found = .requiredMismatch model field := by
  have known : ∀ model ∈ graph.models, ∀ field ∈ model.fields,
      unknownReference? graph.index model field = none := by
    intro model listed field member
    exact unknownReference?_eq_none_iff.mpr (references model listed field member)
  rw [check, inconsistencies, danglingMentions_eq_nil_iff.mpr ancestors,
    filterMap_declarations_eq_nil_iff.mpr known] at answered
  split at answered
  · cases answered
  · rename_i first others inconsistent
    cases answered
    have listed : found ∈ _ := inconsistent.symm ▸ List.mem_cons_self
    rw [List.map_nil, List.nil_append, List.nil_append, List.mem_filterMap] at listed
    rcases listed with ⟨⟨model, field⟩, _, mismatch⟩
    have named :
        (if field.required = model.required.contains field.name then none
          else some (.requiredMismatch model.name field.name)) = some found := mismatch
    split at named
    · cases named
    · cases named
      exact ⟨model.name, field.name, rfl⟩

/--
A graph made by storing models that passes the strict check may fail it after
flattening, but only for a flag, and it passes exactly if what each model requires
is required by the first model on its walk that declares it.  So it passes where
models require only names of their own fields.
-/
theorem check_flatten_eq_ok_iff
    {models : List Model} {flattening : Flattening}
    (valid : (stored models).check = .ok ())
    (done : (stored models).flatten = .ok flattening) :
    (flattening.graph.check = .ok () ↔ (stored models).RequiresAsDeclared) ∧
      (∀ found, flattening.graph.check = .error found →
        ∃ model field, found = .requiredMismatch model field) ∧
      ((∀ model ∈ (stored models).models, ∀ name ∈ model.required, name ∈ model.fieldNames) →
        flattening.graph.check = .ok ()) := by
  have keyed := wellKeyed_stored models
  have flattens := flattens_of_flatten keyed done
  have grounded := grounded_of_flatten keyed done
  have consistent := check_eq_ok_iff.mp valid
  have passes : flattening.graph.check = .ok () ↔ (stored models).RequiresAsDeclared := by
    rw [check_eq_ok_iff]
    exact flattens.consistent_iff_requiresAsDeclared grounded consistent
  refine ⟨passes, ?_, fun declared => passes.mpr (requiresAsDeclared_of_declared declared)⟩
  intro found
  exact exists_requiredMismatch_of_check (flattens.ancestors_present consistent)
    (flattens.references_present grounded consistent)

/--
Repeated field names, a required name that nobody declares, and one that is declared
and required further up.
-/
def insisting : List Model :=
  [⟨"Entity", [⟨"id", .primitive .string, true⟩, ⟨"id", .reference "Dog", true⟩],
      .ofList ["id"], []⟩,
    ⟨"Dog", [⟨"age", .primitive .int32, false⟩], .ofList ["ghost", "id"], ["Entity"]⟩]

theorem check_flatten_eq_ok_iff_insisting :
    ∃ flattening,
      (stored insisting).check = .ok () ∧
        (stored insisting).flatten = .ok flattening ∧
        flattening.graph.check = .ok () ∧
        (stored insisting).RequiresAsDeclared := by
  have valid : (stored insisting).check = .ok () := by
    decide +kernel
  have passes :
      ((stored insisting).flatten.toOption.map fun done => done.graph.check) =
        some (.ok ()) := by
    decide +kernel
  rcases Option.map_eq_some_iff.mp passes with ⟨flattening, found, checked⟩
  have done : (stored insisting).flatten = .ok flattening := ok_of_toOption_eq_some found
  exact ⟨flattening, valid, done, checked, (check_flatten_eq_ok_iff valid done).1.mp checked⟩

/-- A model requires a name that it does not declare and that is optional further up. -/
def promoting : List Model :=
  [⟨"Entity", [⟨"id", .primitive .string, false⟩], ∅, []⟩,
    ⟨"Dog", [], .ofList ["id"], ["Entity"]⟩]

/-- Passing the strict check is not kept by flattening. -/
theorem exists_check_flatten_ne_ok :
    ∃ flattening,
      (stored promoting).check = .ok () ∧
        (stored promoting).flatten = .ok flattening ∧
        flattening.graph.check = .error (.requiredMismatch "Dog" "id") := by
  have valid : (stored promoting).check = .ok () := by
    decide +kernel
  have fails :
      ((stored promoting).flatten.toOption.map fun done => done.graph.check) =
        some (.error (.requiredMismatch "Dog" "id")) := by
    decide +kernel
  rcases Option.map_eq_some_iff.mp fails with ⟨flattening, found, checked⟩
  exact ⟨flattening, valid, ok_of_toOption_eq_some found, checked⟩

end ModelGraph

end ModelLineage
