import ModelLineage.Flatten.OpenModel
import ModelLineage.Proofs.Flatten.Roster
import Mathlib.Data.List.Basic
import Mathlib.Tactic.Tauto
import Std.Data.TreeSet.Lemmas

/-!
# What an open model inherits

Inheriting goes through the fields of an ancestor one by one.  Taken together it
offers all of them to the roster, adds the names that the ancestor requires of
the fields that were new, and reports each field that met another type under its
name.  The field that keeps a name keeps it for good, so the conflicts can be
read off any later state of the open model as well.
-/

namespace ModelLineage

/--
The conflicts between the fields that a model keeps and those that it is offered
from a source, one for each offered field that meets another type.
-/
def conflictsBetween
    (model : String)
    (kept : List Field)
    (source : String)
    (offered : List Field) : List FieldConflict :=
  offered.filterMap fun field =>
    (kept.find? fun other => other.name = field.name).bind fun other =>
      if other.type = field.type then none
      else some ⟨model, field.name, other.type, field.type, source⟩

/-- Only the fields that keep the offered names matter. -/
theorem conflictsBetween_congr
    {model source : String} {kept kept' offered : List Field}
    (same : ∀ field ∈ offered,
      (kept.find? fun other => other.name = field.name) =
        kept'.find? fun other => other.name = field.name) :
    conflictsBetween model kept source offered =
      conflictsBetween model kept' source offered := by
  apply List.filterMap_congr
  intro field member
  rw [same field member]

namespace OpenModel

variable
    {source : String}
    {inherited : Lineage}

/-! ## One field -/

theorem roster_inheritField
    (state : OpenModel × Array FieldConflict)
    (field : Field) :
    (inheritField source inherited state field).1.roster = state.1.roster.offer field := by
  rw [inheritField, FieldRoster.offer]
  cases held : state.1.roster.holder? field.name with
  | none => rfl
  | some kept =>
      show (if kept.type = field.type then _ else _ : OpenModel × _).1.roster = _
      split <;> rfl

theorem model_inheritField
    (state : OpenModel × Array FieldConflict)
    (field : Field) :
    (inheritField source inherited state field).1.model = state.1.model := by
  rw [inheritField]
  split
  · rfl
  · split <;> rfl

theorem mem_required_inheritField
    {state : OpenModel × Array FieldConflict} {field : Field} {name : String} :
    name ∈ (inheritField source inherited state field).1.required ↔
      name ∈ state.1.required ∨
        (state.1.roster.holder? field.name = none ∧
          name = field.name ∧ name ∈ inherited.required) := by
  rw [inheritField]
  cases held : state.1.roster.holder? field.name with
  | none =>
      simp only [adopt, true_and]
      split
      · rename_i demanded
        rw [Std.TreeSet.mem_insert]
        constructor
        · rintro (same | known)
          · have named : field.name = name := Std.LawfulEqCmp.eq_of_compare same
            subst named
            exact .inr ⟨rfl, demanded⟩
          · exact .inl known
        · rintro (known | ⟨rfl, _⟩)
          · exact .inr known
          · exact .inl Std.ReflCmp.compare_self
      · rename_i undemanded
        constructor
        · exact .inl
        · rintro (known | ⟨rfl, demanded⟩)
          · exact known
          · exact absurd demanded undemanded
  | some kept =>
      have unchanged :
          (if kept.type = field.type then state
            else (state.1,
              state.2.push
                ⟨state.1.model.name, field.name, kept.type, field.type, source⟩)).1 =
            state.1 := by
        split <;> rfl
      simp [unchanged]

theorem indexed_inheritField
    {state : OpenModel × Array FieldConflict} {field : Field}
    (indexed : state.1.roster.Indexed) :
    (inheritField source inherited state field).1.roster.Indexed := by
  rw [roster_inheritField]
  exact indexed.offer field

theorem conflicts_inheritField
    {state : OpenModel × Array FieldConflict} {field : Field}
    (indexed : state.1.roster.Indexed) :
    (inheritField source inherited state field).2.toList =
      state.2.toList ++
        conflictsBetween state.1.model.name (state.1.roster.toList ++ [field]) source
          [field] := by
  rw [inheritField, conflictsBetween, List.filterMap_cons, List.filterMap_nil,
    List.find?_append, ← indexed.holder?_eq]
  cases held : state.1.roster.holder? field.name with
  | none => simp
  | some kept =>
      by_cases same : kept.type = field.type
      · simp [same]
      · simp [same]

/-! ## All fields of an ancestor -/

theorem roster_foldl_inheritField
    (fields : List Field)
    (state : OpenModel × Array FieldConflict) :
    (fields.foldl (inheritField source inherited) state).1.roster =
      state.1.roster.offerAll fields := by
  induction fields generalizing state with
  | nil => rfl
  | cons field fields ih =>
      rw [List.foldl_cons, ih, roster_inheritField]
      rfl

theorem mem_required_foldl_inheritField
    {fields : List Field} {state : OpenModel × Array FieldConflict} {name : String}
    (indexed : state.1.roster.Indexed) :
    name ∈ (fields.foldl (inheritField source inherited) state).1.required ↔
      name ∈ state.1.required ∨
        (name ∉ state.1.roster.toList.map Field.name ∧
          name ∈ fields.map Field.name ∧ name ∈ inherited.required) := by
  induction fields generalizing state with
  | nil => simp
  | cons field fields ih =>
      have namesAfter :
          name ∈ (inheritField source inherited state field).1.roster.toList.map Field.name ↔
            name ∈ state.1.roster.toList.map Field.name ∨ name = field.name := by
        rw [roster_inheritField, indexed.toList_offer, mem_names_firstDeclarations]
        simp
      have unheld :
          state.1.roster.holder? field.name = none ↔
            field.name ∉ state.1.roster.toList.map Field.name := by
        rw [← indexed.holder?_isSome_iff, Option.not_isSome_iff_eq_none]
      rw [List.foldl_cons, ih (indexed_inheritField indexed), mem_required_inheritField,
        namesAfter, unheld, List.map_cons, List.mem_cons]
      by_cases same : name = field.name
      · subst same
        tauto
      · tauto

theorem conflicts_foldl_inheritField
    {fields : List Field} {state : OpenModel × Array FieldConflict}
    (indexed : state.1.roster.Indexed) :
    (fields.foldl (inheritField source inherited) state).2.toList =
      state.2.toList ++
        conflictsBetween state.1.model.name (state.1.roster.toList ++ fields) source
          fields := by
  induction fields generalizing state with
  | nil => simp [conflictsBetween]
  | cons field fields ih =>
      have first :
          conflictsBetween state.1.model.name (state.1.roster.toList ++ [field]) source
              [field] =
            conflictsBetween state.1.model.name (state.1.roster.toList ++ field :: fields)
              source [field] := by
        apply conflictsBetween_congr
        intro other member
        rw [List.mem_singleton.mp member]
        simp [List.find?_append]
      have later :
          conflictsBetween state.1.model.name
              ((state.1.roster.offer field).toList ++ fields) source fields =
            conflictsBetween state.1.model.name (state.1.roster.toList ++ field :: fields)
              source fields := by
        apply conflictsBetween_congr
        intro other _
        rw [indexed.toList_offer, List.find?_append, find?_firstDeclarations,
          ← List.find?_append, List.append_assoc, List.singleton_append]
      rw [List.foldl_cons, ih (indexed_inheritField indexed), conflicts_inheritField indexed,
        model_inheritField, roster_inheritField, first, later, List.append_assoc]
      congr 1
      rw [conflictsBetween, conflictsBetween, conflictsBetween, ← List.filterMap_append]
      rfl

variable {opened : OpenModel}

theorem roster_inherit :
    (opened.inherit source inherited).1.roster =
      opened.roster.offerAll inherited.fields :=
  roster_foldl_inheritField inherited.fields (opened, #[])

theorem mem_required_inherit
    {name : String}
    (indexed : opened.roster.Indexed) :
    name ∈ (opened.inherit source inherited).1.required ↔
      name ∈ opened.required ∨
        (name ∉ opened.roster.toList.map Field.name ∧
          name ∈ inherited.fields.map Field.name ∧ name ∈ inherited.required) :=
  mem_required_foldl_inheritField indexed

theorem conflicts_inherit (indexed : opened.roster.Indexed) :
    (opened.inherit source inherited).2.toList =
      conflictsBetween opened.model.name (opened.roster.toList ++ inherited.fields) source
        inherited.fields := by
  rw [inherit, conflicts_foldl_inheritField indexed]
  rfl

end OpenModel

end ModelLineage
