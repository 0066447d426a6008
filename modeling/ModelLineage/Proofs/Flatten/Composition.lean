import ModelLineage.Flatten.Flattening
import ModelLineage.Proofs.Flatten.Inheriting
import ModelLineage.Proofs.Names.Lookup

/-!
# Composed models

A flattened model is composed of the model as declared and of the flattened
models that it inherits from, in their order.  These determine it.  Composing it
once more with the same models changes nothing, as it has all their names.

An open model is at every moment composed of its model and of what it has
inherited so far.
-/

namespace ModelLineage

namespace Model

theorem declares_iff {model : Model} {name : String} :
    model.declares name = true ↔ name ∈ model.fieldNames := by
  rw [declares, field?, List.find?_isSome, fieldNames]
  simp

/--
What a model becomes when it inherits from some models in their order: the first
declarations of its own fields and of theirs, and as required names its own and,
for a name it does not declare, what the first model that declares it says.
-/
structure ComposedOf (image own : Model) (inherited : List Model) : Prop where
  name : image.name = own.name
  ancestors : image.ancestors = own.ancestors
  fields : image.fields = firstDeclarations (own.fields ++ inherited.flatMap Model.fields)
  required : ∀ name,
    name ∈ image.required ↔
      name ∈ own.required ∨
        name ∉ own.fieldNames ∧
          ∃ source, inherited.find? (·.declares name) = some source ∧
            name ∈ source.required

variable {image image' own : Model} {inherited : List Model}

namespace ComposedOf

/-- What a model is composed of determines it. -/
theorem unique
    (composed : image.ComposedOf own inherited)
    (composed' : image'.ComposedOf own inherited) :
    image = image' := by
  have sameRequired : image.required = image'.required := by
    apply NameSet.ext_mem
    intro name
    rw [composed.required, composed'.required]
  have sameName := composed.name.trans composed'.name.symm
  have sameFields := composed.fields.trans composed'.fields.symm
  have sameAncestors := composed.ancestors.trans composed'.ancestors.symm
  cases image
  cases image'
  cases sameName
  cases sameFields
  cases sameRequired
  cases sameAncestors
  rfl

theorem mem_fieldNames_iff
    (composed : image.ComposedOf own inherited)
    {name : String} :
    name ∈ image.fieldNames ↔
      name ∈ own.fieldNames ∨ ∃ source ∈ inherited, source.declares name = true := by
  rw [fieldNames, composed.fields, mem_names_firstDeclarations, List.map_append,
    List.mem_append, List.map_flatMap, List.mem_flatMap]
  simp only [declares_iff, fieldNames]

theorem nodup_fieldNames (composed : image.ComposedOf own inherited) :
    image.fieldNames.Nodup := by
  rw [fieldNames, composed.fields]
  exact nodup_names_firstDeclarations _

/-- A composed model takes nothing more from the models that it inherits from. -/
theorem again (composed : image.ComposedOf own inherited) :
    image.ComposedOf image inherited where
  name := rfl
  ancestors := rfl
  fields := by
    have kept : firstDeclarations image.fields = image.fields :=
      firstDeclarations_eq_self composed.nodup_fieldNames
    rw [firstDeclarations_append_of_subset, kept]
    intro field member
    rcases List.mem_flatMap.mp member with ⟨source, listed, declared⟩
    apply composed.mem_fieldNames_iff.mpr
    exact .inr ⟨source, listed, declares_iff.mpr (List.mem_map_of_mem declared)⟩
  required := by
    intro name
    constructor
    · exact .inl
    · rintro (known | ⟨undeclared, source, found, _⟩)
      · exact known
      · apply absurd _ undeclared
        apply composed.mem_fieldNames_iff.mpr
        exact .inr ⟨source, List.mem_of_find?_eq_some found, by simpa using List.find?_some found⟩

end ComposedOf

end Model

namespace OpenModel

/-- An open model as the model that it would be if it inherited no more. -/
def image (opened : OpenModel) : Model :=
  Lineage.applyTo ⟨opened.roster.toList, opened.required⟩ opened.model

theorem indexed_ofModel (model : Model) : (ofModel model).roster.Indexed :=
  FieldRoster.indexed_empty.offerAll model.fields

/-- A model that was just opened is composed of itself alone. -/
theorem composedOf_ofModel (model : Model) :
    (ofModel model).image.ComposedOf model [] where
  name := rfl
  ancestors := rfl
  fields := by
    show ((∅ : FieldRoster).offerAll model.fields).toList = _
    rw [FieldRoster.indexed_empty.toList_offerAll, List.flatMap_nil, List.append_nil]
    rfl
  required := by
    intro name
    show name ∈ NameSet.ofIndex model.required.index ↔ _
    simp

variable {opened : OpenModel} {own : Model} {inherited : List Model}

/-- Inheriting a lineage adds one model to those that an open model is composed of. -/
theorem composedOf_inherit
    (composed : opened.image.ComposedOf own inherited)
    (indexed : opened.roster.Indexed)
    (source : String)
    (lineage : Lineage)
    (parent : Model) :
    (opened.inherit source lineage).1.image.ComposedOf own
      (inherited ++ [lineage.applyTo parent]) where
  name := by
    show (opened.inherit source lineage).1.model.name = _
    rw [(inherit_keeps opened source lineage).1]
    exact composed.name
  ancestors := by
    show (opened.inherit source lineage).1.model.ancestors = _
    rw [(inherit_keeps opened source lineage).1]
    exact composed.ancestors
  fields := by
    have before : opened.roster.toList = _ := composed.fields
    show (opened.inherit source lineage).1.roster.toList = _
    rw [roster_inherit, indexed.toList_offerAll, before, List.flatMap_append,
      ← List.append_assoc]
    apply firstDeclarations_append_congr (firstDeclarations_firstDeclarations _)
    simp [Lineage.applyTo]
  required := by
    intro name
    have before : name ∈ opened.required ↔ _ :=
      NameSet.mem_ofIndex.symm.trans (composed.required name)
    have unlisted :
        name ∉ opened.roster.toList.map Field.name ↔
          name ∉ own.fieldNames ∧ inherited.find? (·.declares name) = none := by
      have listed : name ∈ opened.image.fieldNames ↔ _ := composed.mem_fieldNames_iff
      rw [List.find?_eq_none]
      show ¬ name ∈ opened.image.fieldNames ↔ _
      rw [listed, not_or, not_exists]
      simp
    have declared :
        name ∈ lineage.fields.map Field.name ↔
          (lineage.applyTo parent).declares name = true := by
      rw [Model.declares_iff]
      rfl
    have demanded :
        name ∈ lineage.required ↔ name ∈ (lineage.applyTo parent).required :=
      NameSet.mem_ofIndex.symm
    show name ∈ NameSet.ofIndex (opened.inherit source lineage).1.required ↔ _
    rw [NameSet.mem_ofIndex, mem_required_inherit indexed, before, unlisted, declared,
      demanded, List.find?_append]
    cases found : inherited.find? (·.declares name) with
    | some earlier => simp
    | none =>
        cases brought : (lineage.applyTo parent).declares name with
        | true => simp [brought]
        | false => simp [brought]

end OpenModel

end ModelLineage
