import ModelLineage.Proofs.GraphDocument.Levels
import ModelLineage.Proofs.GraphDocument.Soundness

/-!
# Writing and loading

A sound graph is loaded from its own document as it was, unless the type of some
field has more than 123 levels; then the document passes the limit on open
containers and is malformed.  Graphs that were loaded are sound and keep to the
limit, so writing and loading them again changes nothing.
-/

namespace ModelLineage

namespace ModelGraph

variable {graph : ModelGraph}

/-- A sound graph is loaded from its document, also if blanks follow. -/
theorem load_document_append_of_shallow
    {blanks : String}
    (sound : graph.Sound)
    (shallow : graph.Shallow)
    (blank : ∀ char ∈ blanks.toList, Json.isBlank char = true) :
    load (graph.document ++ blanks) = .ok graph := by
  rw [load, ofText_document graph blank, ifFits_of shallow]
  show (graph.settle).mapError LoadError.fault = _
  rw [settle_of_sound sound]
  rfl

theorem load_document_of_shallow
    (sound : graph.Sound)
    (shallow : graph.Shallow) :
    load graph.document = .ok graph := by
  have nothing : ∀ char ∈ "".toList, Json.isBlank char = true := by simp
  have loaded := load_document_append_of_shallow sound shallow nothing
  rwa [String.append_empty] at loaded

theorem load_document_of_not_shallow (deep : ¬ graph.Shallow) :
    load graph.document = .error (.read (.flaw .malformed)) := by
  have nothing : ∀ char ∈ "".toList, Json.isBlank char = true := by simp
  have read := ofText_document graph nothing
  rw [String.append_empty, ifFits_of_not deep] at read
  rw [load, read]
  rfl

/-- Settling a graph adds no levels. -/
theorem Shallow.settle
    {settled : ModelGraph}
    (shallow : graph.Shallow)
    (done : graph.settle = .ok settled) :
    settled.Shallow := by
  intro model listed field member
  rw [eq_map_of_settle done] at listed
  rcases List.mem_map.mp listed with ⟨entry, entryListed, rfl⟩
  rcases List.mem_map.mp entryListed with ⟨source, sourceListed, rfl⟩
  rcases Model.exists_type_eq_of_mem_settled member with ⟨sourceField, sourceMember, sameType⟩
  rw [← sameType]
  exact shallow source.2 (List.mem_map_of_mem sourceListed) sourceField sourceMember

/-- A graph that was loaded is sound and has no type of more than 123 levels. -/
theorem sound_and_shallow_of_load
    {text : String}
    (loaded : load text = .ok graph) :
    graph.Sound ∧ graph.Shallow := by
  rcases exists_of_bind_eq_ok loaded with ⟨source, read, settled⟩
  have sourceShallow := shallow_of_ofText (ok_of_mapError_eq_ok read)
  have done := ok_of_mapError_eq_ok settled
  exact ⟨sound_of_settle done, sourceShallow.settle done⟩

/--
A sound graph is loaded from its document unless some type has more than 123
levels, and then the document is malformed.  A graph that was loaded from any
text is loaded from its own document as well.
-/
theorem load_document :
    (∀ graph : ModelGraph, graph.Sound →
      ((∀ model ∈ graph.models, ∀ field ∈ model.fields, field.type.depth ≤ 123) →
          load graph.document = .ok graph) ∧
        ((∃ model ∈ graph.models, ∃ field ∈ model.fields, 123 < field.type.depth) →
          load graph.document = .error (.read (.flaw .malformed)))) ∧
      ∀ text graph, load text = .ok graph → load graph.document = .ok graph := by
  constructor
  · intro graph sound
    refine ⟨load_document_of_shallow sound, ?_⟩
    rintro ⟨model, listed, field, member, deep⟩
    apply load_document_of_not_shallow
    intro shallow
    exact Nat.not_le_of_lt deep (shallow model listed field member)
  · intro text graph loaded
    rcases sound_and_shallow_of_load loaded with ⟨sound, shallow⟩
    exact load_document_of_shallow sound shallow

/-- Lists inside lists, so many of them. -/
def nestedLists : Nat → FieldType
  | 0 => .reference "\\"
  | levels + 1 => .list (nestedLists levels) false

theorem depth_nestedLists (levels : Nat) : (nestedLists levels).depth = levels + 1 := by
  induction levels with
  | zero => rfl
  | succ levels ih => rw [nestedLists, FieldType.depth, ih]

/-- A model under a name that is escaped, with one field whose name is empty. -/
def nested (levels : Nat) : ModelGraph :=
  ofModels [⟨"\"\n\x01", [⟨"", nestedLists levels, true⟩], .ofList [""], ["\"\n\x01"]⟩]

theorem sound_nested (levels : Nat) : (nested levels).Sound := by
  constructor
  case keyed =>
    intro entry listed
    rw [List.mem_singleton.mp listed]
  case models =>
    intro model listed
    rw [List.mem_singleton.mp listed]
    constructor
    case distinct => exact List.pairwise_singleton _ _
    case declared =>
      intro name demanded
      exact NameSet.mem_ofList.mp demanded
    case flagged =>
      intro field member
      rw [List.mem_singleton.mp member]
      simp

theorem load_document_nested :
    load (nested 122).document = .ok (nested 122) ∧
      load (nested 123).document = .error (.read (.flaw .malformed)) ∧
      ∃ text, load text = .ok (nested 122) ∧
        load (nested 122).document = .ok (nested 122) := by
  rcases load_document with ⟨written, loaded⟩
  have within : load (nested 122).document = .ok (nested 122) := by
    apply (written (nested 122) (sound_nested 122)).1
    intro model listed field member
    rw [List.mem_singleton.mp listed] at member
    rw [List.mem_singleton.mp member]
    exact Nat.le_of_eq (depth_nestedLists 122)
  refine ⟨within, ?_, (nested 122).document, within, loaded _ _ within⟩
  apply (written (nested 123) (sound_nested 123)).2
  refine ⟨_, List.mem_singleton_self _, _, List.mem_singleton_self _, ?_⟩
  exact Nat.lt_of_lt_of_eq (Nat.lt_succ_self 123) (depth_nestedLists 123).symm

end ModelGraph

end ModelLineage
