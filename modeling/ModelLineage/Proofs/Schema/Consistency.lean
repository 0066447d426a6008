import ModelLineage.Proofs.Names.Lookup
import ModelLineage.Schema.Consistency

/-!
# What the strict check asks for

A graph passes the strict check exactly if all ancestors and all referenced
models are in it and every flag agrees with the required set of its model.
Missing ancestors come before all else: the check answers with one whenever
there is one.
-/

namespace ModelLineage

namespace ModelGraph

variable {graph : ModelGraph}

/-- What the strict check asks of a graph. -/
structure Consistent (graph : ModelGraph) : Prop where
  ancestors : ∀ model ∈ graph.models, ∀ ancestor ∈ model.ancestors,
    graph.contains ancestor = true
  references : ∀ model ∈ graph.models, ∀ field ∈ model.fields, ∀ target,
    field.type.target? = some target → graph.contains target = true
  flags : ∀ model ∈ graph.models, ∀ field ∈ model.fields,
    field.required = true ↔ field.name ∈ model.required

theorem danglingMentions_eq_nil_iff :
    graph.danglingMentions = [] ↔
      ∀ model ∈ graph.models, ∀ ancestor ∈ model.ancestors,
        graph.contains ancestor = true := by
  simp [danglingMentions, List.flatMap_eq_nil_iff, List.filter_eq_nil_iff]

theorem unknownReference?_eq_none_iff
    {index : graph.Index} {model : Model} {field : Field} :
    unknownReference? index model field = none ↔
      ∀ target, field.type.target? = some target → graph.contains target = true := by
  rw [unknownReference?]
  cases field.type.target? with
  | none => simp
  | some target => simp

theorem requiredMismatch?_eq_none_iff {model : Model} {field : Field} :
    requiredMismatch? model field = none ↔
      (field.required = true ↔ field.name ∈ model.required) := by
  rw [requiredMismatch?, ← NameSet.contains_iff, ← Bool.eq_iff_iff]
  simp

theorem filterMap_declarations_eq_nil_iff
    {found? : Model → Field → Option Inconsistency} :
    (graph.declarations.filterMap fun (model, field) => found? model field) = [] ↔
      ∀ model ∈ graph.models, ∀ field ∈ model.fields, found? model field = none := by
  rw [List.filterMap_eq_nil_iff, declarations]
  constructor
  · intro none model listed field member
    exact none (model, field)
      (List.mem_flatMap.mpr ⟨model, listed, List.mem_map_of_mem member⟩)
  · intro none declaration declared
    rcases List.mem_flatMap.mp declared with ⟨model, listed, member⟩
    rcases List.mem_map.mp member with ⟨field, fieldMember, rfl⟩
    exact none model listed field fieldMember

/-- A graph passes the strict check exactly if it is consistent. -/
theorem check_eq_ok_iff : graph.check = .ok () ↔ graph.Consistent := by
  have faultless : graph.check = .ok () ↔ graph.inconsistencies = [] := by
    rw [check]
    cases graph.inconsistencies with
    | nil => simp
    | cons first others => simp
  rw [faultless, inconsistencies, List.append_eq_nil_iff, List.append_eq_nil_iff,
    List.map_eq_nil_iff, danglingMentions_eq_nil_iff, filterMap_declarations_eq_nil_iff,
    filterMap_declarations_eq_nil_iff]
  simp only [unknownReference?_eq_none_iff, requiredMismatch?_eq_none_iff]
  constructor
  · rintro ⟨⟨ancestors, references⟩, flags⟩
    exact ⟨ancestors, references, flags⟩
  · intro consistent
    exact ⟨⟨consistent.ancestors, consistent.references⟩, consistent.flags⟩

theorem unknownReference?_ne_danglingAncestor
    {index : graph.Index} {model : Model} {field : Field}
    (heir ancestor : String) :
    unknownReference? index model field ≠ some (.danglingAncestor heir ancestor) := by
  rw [unknownReference?]
  cases field.type.target? with
  | none => simp
  | some target =>
      show (if index.contains target then none else some _) ≠ _
      split <;> simp

theorem requiredMismatch?_ne_danglingAncestor
    {model : Model} {field : Field}
    (heir ancestor : String) :
    requiredMismatch? model field ≠ some (.danglingAncestor heir ancestor) := by
  rw [requiredMismatch?]
  split <;> simp

/-- The strict check answers with a missing ancestor unless none is missing. -/
theorem check_ne_danglingAncestor_iff :
    (∀ heir ancestor, graph.check ≠ .error (.danglingAncestor heir ancestor)) ↔
      graph.danglingMentions = [] := by
  rw [check, inconsistencies]
  cases graph.danglingMentions with
  | cons mention mentions => simp
  | nil =>
      refine iff_of_true ?_ rfl
      intro heir ancestor answered
      split at answered
      · cases answered
      · rename_i first others found
        cases answered
        have listed : Inconsistency.danglingAncestor heir ancestor ∈ _ :=
          found.symm ▸ List.mem_cons_self
        rw [List.map_nil, List.nil_append, List.mem_append, List.mem_filterMap,
          List.mem_filterMap] at listed
        rcases listed with ⟨_, _, unknown⟩ | ⟨_, _, mismatch⟩
        · exact unknownReference?_ne_danglingAncestor heir ancestor unknown
        · exact requiredMismatch?_ne_danglingAncestor heir ancestor mismatch

end ModelGraph

end ModelLineage
