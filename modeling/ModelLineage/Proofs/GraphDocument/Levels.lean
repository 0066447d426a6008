import ModelLineage.Proofs.GraphDocument.Models

/-!
# Levels of the types that are read

Whatever a text spells, and whether its models and fields are written as objects
or as arrays, the types of the graph that is read from it have no more levels
than a document of that graph could hold.
-/

namespace ModelLineage

open Json (Tree Spelling Ending containerLimit)

theorem exists_of_listOfTree
    {Value : Type} {read : Nat → Tree → Except ReadError Value}
    {outside : Nat} {tree : Tree} {values : List Value} {value : Value}
    (done : listOfTree read outside tree = .ok values)
    (listed : value ∈ values) :
    ∃ item, read (outside + 1) item = .ok value := by
  cases tree with
  | array items ending =>
      rcases exists_of_bind_eq_ok done with ⟨_, _, later⟩
      rcases exists_of_bind_eq_ok later with ⟨found, itemsRead, ended⟩
      rw [Json.eq_of_after (of_flawed ended)] at listed
      rcases exists_of_mem_mapM itemsRead listed with ⟨item, _, itemRead⟩
      exact ⟨item, itemRead⟩
  | _ => cases done

/-! ## Fields -/

/-- The type that was read of a field fits into the limit. -/
def FieldParts.Fit (parts : FieldParts) (outside : Nat) : Prop :=
  ∀ type, parts.type = some type → type.depth + outside ≤ containerLimit

theorem fit_of_readFieldMembers
    {outside : Nat} {members : List (Spelling × Tree)} {parts : FieldParts}
    (read : readFieldMembers outside .none members = .ok parts) :
    parts.Fit outside := by
  rw [readFieldMembers_eq] at read
  refine readMembers_keeps (fun parts => parts.Fit outside) ?_ ?_ read
  · intro parts parts' key tree fit taken
    refine takeUpMember_keeps (fun parts : FieldParts => parts.Fit outside) ?_ fit taken
    intro slot listed part partRead
    -- Only the type adds levels.
    rcases FieldParts.mem_slots_iff.mp listed with rfl | rfl | rfl
    · exact fit
    · intro type same
      cases same
      exact depth_le_of_typeOfTree partRead
    · exact fit
  · intro type unread
    cases unread

theorem type_of_assemble
    {parts : FieldParts} {field : Field}
    (assembled : parts.assemble = .ok field) :
    parts.type = some field.type := by
  rw [FieldParts.assemble] at assembled
  split at assembled
  · cases assembled
  · cases assembled
  · rename_i name type _ known
    cases assembled
    exact known

theorem depth_le_of_readFieldItems
    {outside : Nat} {ending : Ending} {items : List Tree} {field : Field}
    (read : readFieldItems outside ending items = .ok field) :
    field.type.depth + outside ≤ containerLimit := by
  match items, read with
  | [], read =>
      rcases exists_of_bind_eq_ok read with ⟨_, _, later⟩
      cases later
  | [name], read =>
      rcases exists_of_bind_eq_ok read with ⟨_, _, later⟩
      rcases exists_of_bind_eq_ok later with ⟨_, _, later⟩
      cases later
  | [name, type], read =>
      rcases exists_of_bind_eq_ok read with ⟨_, _, later⟩
      rcases exists_of_bind_eq_ok later with ⟨found, typeRead, ended⟩
      rw [Json.eq_of_after (of_flawed ended)]
      exact depth_le_of_typeOfTree typeRead
  | name :: type :: required :: items, read =>
      rcases exists_of_bind_eq_ok read with ⟨_, _, later⟩
      rcases exists_of_bind_eq_ok later with ⟨found, typeRead, later⟩
      rcases exists_of_bind_eq_ok later with ⟨_, _, ended⟩
      cases items with
      | nil =>
          rw [Json.eq_of_after (of_flawed ended)]
          exact depth_le_of_typeOfTree typeRead
      | cons => cases ended

/-- The type of a field that is read stands one container further in than the field. -/
theorem depth_le_of_fieldOfTree
    {outside : Nat} {tree : Tree} {field : Field}
    (read : fieldOfTree outside tree = .ok field) :
    field.type.depth + (outside + 1) ≤ containerLimit := by
  cases tree with
  | object members ending =>
      rcases exists_of_bind_eq_ok read with ⟨_, _, later⟩
      rcases exists_of_bind_eq_ok later with ⟨parts, membersRead, later⟩
      rcases exists_of_bind_eq_ok later with ⟨_, _, assembled⟩
      exact fit_of_readFieldMembers membersRead field.type
        (type_of_assemble (of_mismatched assembled))
  | array items ending =>
      rcases exists_of_bind_eq_ok read with ⟨_, _, itemsRead⟩
      exact depth_le_of_readFieldItems itemsRead
  | _ => cases read

theorem depth_le_of_listOfTree
    {outside : Nat} {tree : Tree} {fields : List Field}
    (read : listOfTree fieldOfTree outside tree = .ok fields) :
    ∀ field ∈ fields, field.type.depth + (outside + 2) ≤ containerLimit := by
  intro field listed
  rcases exists_of_listOfTree read listed with ⟨item, itemRead⟩
  exact depth_le_of_fieldOfTree itemRead

/-! ## Models -/

/-- The types of the fields that were read fit into the limit. -/
def ModelParts.Fit (parts : ModelParts) (outside : Nat) : Prop :=
  ∀ fields, parts.fields = some fields →
    ∀ field ∈ fields, field.type.depth + (outside + 2) ≤ containerLimit

theorem ModelParts.Fit.assemble
    {parts : ModelParts} {outside : Nat}
    (fit : parts.Fit outside) :
    ∀ field ∈ parts.assemble.fields, field.type.depth + (outside + 2) ≤ containerLimit := by
  intro field listed
  rw [ModelParts.assemble] at listed
  cases known : parts.fields with
  | none =>
      rw [known] at listed
      cases listed
  | some fields =>
      rw [known] at listed
      exact fit fields known field listed

theorem ModelParts.fit_of_fields
    {parts : ModelParts} {outside : Nat} {tree : Tree} {fields : List Field}
    (known : parts.fields = some fields)
    (read : listOfTree fieldOfTree outside tree = .ok fields) :
    parts.Fit outside := by
  intro fields' known'
  cases Option.some.inj (known.symm.trans known')
  exact depth_le_of_listOfTree read

theorem ModelParts.fit_of_none
    {parts : ModelParts} {outside : Nat}
    (unread : parts.fields = Option.none) :
    parts.Fit outside := by
  intro fields known
  rw [unread] at known
  cases known

theorem fit_of_readModelMembers
    {outside : Nat} {members : List (Spelling × Tree)} {parts : ModelParts}
    (read : readModelMembers outside .none members = .ok parts) :
    parts.Fit outside := by
  rw [readModelMembers_eq] at read
  refine readMembers_keeps (fun parts => parts.Fit outside) ?_ (ModelParts.fit_of_none rfl) read
  intro parts parts' key tree fit taken
  refine takeUpMember_keeps (fun parts : ModelParts => parts.Fit outside) ?_ fit taken
  intro slot listed part partRead
  -- Only the fields hold types.
  rcases ModelParts.mem_slots_iff.mp listed with rfl | rfl | rfl | rfl
  · exact fit
  · exact ModelParts.fit_of_fields rfl partRead
  · exact fit
  · exact fit

theorem fit_of_readModelItems
    {outside : Nat} {ending : Ending} {items : List Tree} {parts : ModelParts}
    (read : readModelItems outside ending items = .ok parts) :
    parts.Fit outside := by
  match items, read with
  | [], read =>
      rw [Json.eq_of_after (of_flawed read)]
      exact ModelParts.fit_of_none rfl
  | [name], read =>
      rcases exists_of_bind_eq_ok read with ⟨_, _, ended⟩
      rw [Json.eq_of_after (of_flawed ended)]
      exact ModelParts.fit_of_none rfl
  | [name, fields], read =>
      rcases exists_of_bind_eq_ok read with ⟨_, _, later⟩
      rcases exists_of_bind_eq_ok later with ⟨found, fieldsRead, ended⟩
      rw [Json.eq_of_after (of_flawed ended)]
      exact ModelParts.fit_of_fields rfl fieldsRead
  | [name, fields, required], read =>
      rcases exists_of_bind_eq_ok read with ⟨_, _, later⟩
      rcases exists_of_bind_eq_ok later with ⟨found, fieldsRead, later⟩
      rcases exists_of_bind_eq_ok later with ⟨_, _, ended⟩
      rw [Json.eq_of_after (of_flawed ended)]
      exact ModelParts.fit_of_fields rfl fieldsRead
  | name :: fields :: required :: ancestors :: items, read =>
      rcases exists_of_bind_eq_ok read with ⟨_, _, later⟩
      rcases exists_of_bind_eq_ok later with ⟨found, fieldsRead, later⟩
      rcases exists_of_bind_eq_ok later with ⟨_, _, later⟩
      rcases exists_of_bind_eq_ok later with ⟨_, _, ended⟩
      cases items with
      | nil =>
          rw [Json.eq_of_after (of_flawed ended)]
          exact ModelParts.fit_of_fields rfl fieldsRead
      | cons => cases ended

/-- The types of a model that is read stand three containers further in than the model. -/
theorem depth_le_of_modelOfTree
    {outside : Nat} {tree : Tree} {model : Model}
    (read : modelOfTree outside tree = .ok model) :
    ∀ field ∈ model.fields, field.type.depth + (outside + 3) ≤ containerLimit := by
  cases tree with
  | object members ending =>
      rcases exists_of_bind_eq_ok read with ⟨_, _, later⟩
      rcases exists_of_bind_eq_ok later with ⟨parts, membersRead, ended⟩
      rw [Json.eq_of_after (of_flawed ended)]
      exact (fit_of_readModelMembers membersRead).assemble
  | array items ending =>
      rcases exists_of_bind_eq_ok read with ⟨_, _, later⟩
      rcases exists_of_bind_eq_ok later with ⟨parts, itemsRead, assembled⟩
      cases assembled
      exact (fit_of_readModelItems itemsRead).assemble
  | _ => cases read

/-! ## Graphs -/

namespace ModelGraph

/-- A graph that is read from a tree has no type of more than 123 levels. -/
theorem shallow_of_graphOfTree
    {tree : Tree} {graph : ModelGraph}
    (read : graphOfTree 0 tree = .ok graph) :
    graph.Shallow := by
  cases tree with
  | object members ending =>
      rcases exists_of_bind_eq_ok read with ⟨_, _, later⟩
      rcases exists_of_bind_eq_ok later with ⟨entries, entriesRead, ended⟩
      rw [Json.eq_of_after (of_flawed ended)]
      apply shallow_iff.mpr
      intro entry listed
      rcases exists_of_mem_mapM entriesRead (NameMap.mem_of_mem_ofList listed) with
        ⟨source, _, entryRead⟩
      rcases exists_of_bind_eq_ok entryRead with ⟨key, _, later⟩
      rcases exists_of_bind_eq_ok later with ⟨model, modelRead, same⟩
      cases same
      exact depth_le_of_modelOfTree modelRead
  | _ => cases read

theorem shallow_of_ofText
    {text : String} {graph : ModelGraph}
    (read : ofText text = .ok graph) :
    graph.Shallow := by
  rcases exists_of_bind_eq_ok read with ⟨found, treeRead, accepted⟩
  split at accepted
  · cases accepted
    exact shallow_of_graphOfTree treeRead
  · cases accepted

end ModelGraph

end ModelLineage
