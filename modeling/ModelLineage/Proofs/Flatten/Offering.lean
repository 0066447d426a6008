import Mathlib.Data.List.Induction
import ModelLineage.Proofs.Flatten.Roster

/-!
# What a roster gathers

A roster starts empty and is offered fields one after the other, names coming
again in any order.  Its index knows the place of every name that was offered, and
of no other name.  A further offer is answered with the field that came first
under its name.  What is listed in the end are the fields before which no field of
their name had arrived.

A part of what is offered may therefore be gathered by a roster of its own first.
This is how a model takes the fields that an ancestor has gathered in place of all
declarations that these were chosen from.
-/

namespace ModelLineage

/-- The fields of a list before which no field of their name has arrived. -/
def firstArrivals (fields : List Field) : List Field :=
  (fields.zipIdx.filter fun entry =>
    entry.1.name ∉ (fields.take entry.2).map Field.name).map Prod.fst

theorem firstArrivals_concat (fields : List Field) (field : Field) :
    firstArrivals (fields ++ [field]) =
      firstArrivals fields ++ if field.name ∈ fields.map Field.name then [] else [field] := by
  have earlier :
      (fields.zipIdx.filter fun entry =>
          entry.1.name ∉ ((fields ++ [field]).take entry.2).map Field.name) =
        fields.zipIdx.filter fun entry =>
          entry.1.name ∉ (fields.take entry.2).map Field.name := by
    apply List.filter_congr
    rintro ⟨other, position⟩ listed
    have within : position < fields.length := by
      simpa using List.snd_lt_of_mem_zipIdx listed
    rw [List.take_append_of_le_length (Nat.le_of_lt within)]
  have last :
      ([field].zipIdx fields.length).filter (fun entry =>
          entry.1.name ∉ ((fields ++ [field]).take entry.2).map Field.name) =
        if field.name ∈ fields.map Field.name then [] else [(field, fields.length)] := by
    rw [List.zipIdx_singleton, List.filter_cons, List.take_left]
    by_cases known : field.name ∈ fields.map Field.name <;> simp [known]
  rw [firstArrivals, List.zipIdx_append, List.filter_append, Nat.zero_add, earlier, last,
    List.map_append, ← firstArrivals]
  split <;> rfl

/-- The first declarations of a list are its first arrivals. -/
theorem firstDeclarations_eq_firstArrivals (fields : List Field) :
    firstDeclarations fields = firstArrivals fields := by
  induction fields using List.reverseRecOn with
  | nil => rfl
  | append_singleton fields field ih =>
      have alone : firstDeclarations [field] = [field] := rfl
      rw [firstDeclarations_append, alone, ih, firstArrivals_concat, List.filter_cons]
      congr 1
      by_cases known : field.name ∈ fields.map Field.name <;>
        simp only [known, not_true, not_false_iff, decide_true, decide_false, if_true,
          Bool.false_eq_true, if_false, List.filter_nil]

/-- What is kept of several lists is determined by what is kept of each. -/
theorem firstDeclarations_flatMap_firstDeclarations (parts : List (List Field)) :
    firstDeclarations (parts.flatMap firstDeclarations) = firstDeclarations parts.flatten := by
  induction parts with
  | nil => rfl
  | cons part parts ih =>
      rw [List.flatMap_cons, List.flatten_cons]
      exact firstDeclarations_append_congr (firstDeclarations_firstDeclarations part) ih

namespace FieldRoster

variable {roster : FieldRoster}

/-- The roster of some fields, offered one after the other. -/
def ofFields (fields : List Field) : FieldRoster :=
  (∅ : FieldRoster).offerAll fields

theorem indexed_ofFields (fields : List Field) : (ofFields fields).Indexed :=
  indexed_empty.offerAll fields

theorem toList_ofFields (fields : List Field) :
    (ofFields fields).toList = firstDeclarations fields :=
  indexed_empty.toList_offerAll fields

/-- A name with a position is the name of some field on the list. -/
theorem Indexed.mem_positions_iff
    (indexed : roster.Indexed)
    {name : String} :
    name ∈ roster.positions ↔ name ∈ roster.toList.map Field.name := by
  rw [← indexed.holder?_isSome_iff, Std.TreeMap.mem_iff_isSome_getElem?, holder?]
  cases known : roster.positions[name]? with
  | none => simp
  | some position =>
      rcases (indexed name position).mp known with ⟨field, listed, _⟩
      simp [listed]

/--
A roster lists the first field of every name that it was offered, in order of
arrival.  Its index holds the position of each of these names, and an offer is
answered with the first field of its name.  Offering what rosters of their own
gathered from the parts of a list comes to the same as offering the list.
-/
theorem ofFields_gathers_first :
    (∀ fields : List Field,
      (∀ (name : String) (position : Nat),
        (ofFields fields).positions[name]? = some position ↔
          ∃ within : position < (ofFields fields).fields.size,
            (ofFields fields).fields[position].name = name) ∧
        (∀ name : String, name ∈ (ofFields fields).positions ↔ name ∈ fields.map Field.name) ∧
        (∀ next : Field,
          (ofFields fields).holder? next.name =
            fields.find? fun field => field.name = next.name) ∧
        (ofFields fields).toList = firstArrivals fields) ∧
      ∀ parts : List (List Field),
        (ofFields (parts.flatMap fun part => (ofFields part).toList)).toList =
          (ofFields parts.flatten).toList := by
  refine ⟨fun fields => ⟨?positions, ?names, ?answers, ?listed⟩, ?parts⟩
  case positions =>
    intro name position
    rw [indexed_ofFields fields name position]
    constructor
    · rintro ⟨field, listed, named⟩
      rcases Array.getElem?_eq_some_iff.mp listed with ⟨within, rfl⟩
      exact ⟨within, named⟩
    · rintro ⟨within, named⟩
      exact ⟨_, Array.getElem?_eq_getElem within, named⟩
  case names =>
    intro name
    rw [(indexed_ofFields fields).mem_positions_iff, toList_ofFields]
    exact mem_names_firstDeclarations
  case answers =>
    intro next
    rw [(indexed_ofFields fields).holder?_eq, toList_ofFields]
    exact find?_firstDeclarations next.name fields
  case listed =>
    rw [toList_ofFields]
    exact firstDeclarations_eq_firstArrivals fields
  case parts =>
    intro parts
    rw [toList_ofFields, toList_ofFields]
    simp only [toList_ofFields]
    exact firstDeclarations_flatMap_firstDeclarations parts

end FieldRoster

end ModelLineage
