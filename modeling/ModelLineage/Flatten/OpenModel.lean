import ModelLineage.Flatten.FieldRoster
import ModelLineage.Flatten.Report
import ModelLineage.Names.NameIndex

/-!
# Open models

A lineage is what a model passes on to the models that compose it: its flattened
fields and required names.  A model is open while it collects the lineages of its
ancestors one after the other; it holds what came together so far, its own fields
and those of the ancestors before the next one.
-/

namespace ModelLineage

/-- What a model passes on: its flattened fields and required set. -/
structure Lineage where
  fields : List Field
  required : Std.TreeSet String
  deriving Inhabited

/-- A model that collects from its ancestors, the next of them at position `next`. -/
structure OpenModel where
  model : Model
  next : Nat
  roster : FieldRoster
  required : Std.TreeSet String
  deriving Inhabited

namespace OpenModel

/-- A model that has collected from no ancestor yet. -/
def ofModel (model : Model) : OpenModel :=
  ⟨model, 0, (∅ : FieldRoster).offerAll model.fields, model.required.index⟩

/-- Go on to the next ancestor. -/
def advance (opened : OpenModel) : OpenModel :=
  { opened with next := opened.next + 1 }

/-- Append an inherited field; it counts as required if the ancestor requires it. -/
def adopt (opened : OpenModel) (inherited : Lineage) (field : Field) : OpenModel :=
  { opened with
    roster := opened.roster.append field
    required :=
      if field.name ∈ inherited.required then opened.required.insert field.name
      else opened.required }

/--
Inherit one field from an ancestor.  A field with a new name is adopted; a name
that is taken by a field of another type is a conflict.
-/
def inheritField
    (source : String)
    (inherited : Lineage)
    (state : OpenModel × Array FieldConflict)
    (field : Field) : OpenModel × Array FieldConflict :=
  match state.1.roster.holder? field.name with
  | none => (state.1.adopt inherited field, state.2)
  | some kept =>
    if kept.type = field.type then state
    else
      (state.1,
        state.2.push ⟨state.1.model.name, field.name, kept.type, field.type, source⟩)

/-- Inherit all fields of an ancestor, listing the conflicts this brings. -/
def inherit (opened : OpenModel) (source : String) (inherited : Lineage) :
    OpenModel × Array FieldConflict :=
  inherited.fields.foldl (inheritField source inherited) (opened, #[])

/-- Inheriting changes neither the model of an open model nor its place among the ancestors. -/
theorem inherit_keeps (opened : OpenModel) (source : String) (inherited : Lineage) :
    (opened.inherit source inherited).1.model = opened.model ∧
      (opened.inherit source inherited).1.next = opened.next := by
  have kept : ∀ (fields : List Field) (state : OpenModel × Array FieldConflict),
      (fields.foldl (inheritField source inherited) state).1.model = state.1.model ∧
        (fields.foldl (inheritField source inherited) state).1.next = state.1.next := by
    intro fields
    induction fields with
    | nil => simp
    | cons field fields ih =>
      intro state
      rw [List.foldl_cons]
      have head :
          (inheritField source inherited state field).1.model = state.1.model ∧
            (inheritField source inherited state field).1.next = state.1.next := by
        unfold inheritField
        split
        · exact ⟨rfl, rfl⟩
        · split <;> exact ⟨rfl, rfl⟩
      exact ⟨(ih _).1.trans head.1, (ih _).2.trans head.2⟩
  exact kept inherited.fields (opened, #[])

end OpenModel

end ModelLineage
