import ModelLineage.GraphDocument.ModelReader
import ModelLineage.Proofs.Outcomes

/-!
# Reading members one by one

The members of a type, of a field, of a model and of a graph are read alike: each is taken
up by its key into what was read so far.  What holds of one step then holds of all members,
whatever it is that they are read into.

A field and a model have parts, each under a key of its own.  They differ only in which
parts these are, so that taking up a member is one function of the list of the parts, and
what is true of a key follows from what is true of its part.
-/

namespace ModelLineage

open Json (Tree Spelling)

section

variable {State Value Result : Type}

/-- Take up members one after the other, each by its key. -/
def readMembers
    (takeUp : State → String → Tree → Except ReadError State)
    (state : State) :
    List (Spelling × Tree) → Except ReadError State
  | [] => .ok state
  | (key, tree) :: members => do
    let key ← flawed key.text
    let state ← takeUp state key tree
    readMembers takeUp state members

/-- What taking up one member keeps, reading them all keeps. -/
theorem readMembers_keeps
    {takeUp : State → String → Tree → Except ReadError State}
    {state state' : State} {members : List (Spelling × Tree)}
    (holds : State → Prop)
    (step : ∀ {state state' key tree},
      holds state → takeUp state key tree = .ok state' → holds state')
    (before : holds state)
    (read : readMembers takeUp state members = .ok state') :
    holds state' := by
  induction members generalizing state with
  | nil =>
      cases read
      exact before
  | cons member members ih =>
      rcases exists_of_bind_eq_ok read with ⟨key, _, later⟩
      rcases exists_of_bind_eq_ok later with ⟨next, taken, others⟩
      exact ih (step before taken) others

/-- Read the part of a key and put it in its place, where there may be none yet. -/
def readOnce
    (known : Option Value)
    (key : String)
    (read : Except ReadError Value)
    (put : Value → State) : Except ReadError State :=
  if known.isSome then throw (.mismatch (.repeatedField key))
  else do
    let value ← read
    return put value

theorem exists_of_readOnce
    {known : Option Value} {key : String} {read : Except ReadError Value} {put : Value → State}
    {state : State}
    (done : readOnce known key read put = .ok state) :
    ∃ value, read = .ok value ∧ put value = state := by
  rw [readOnce] at done
  split at done
  · cases done
  · rcases exists_of_bind_eq_ok done with ⟨value, valueRead, same⟩
    exact ⟨value, valueRead, Except.ok.inj same⟩

theorem readOnce_bind
    (known : Option Value)
    (key : String)
    (read : Except ReadError Value)
    (put : Value → State)
    (next : State → Except ReadError Result) :
    (readOnce known key read put >>= next) =
      if known.isSome then throw (.mismatch (.repeatedField key))
      else (read >>= fun value => next (put value)) := by
  rw [readOnce]
  split
  · rfl
  · cases read <;> rfl

end

/-! ## Types -/

/-- Take up a member of a type: its kind is read, and every other member is kept as a value. -/
def takeUpTypePart
    (outside : Nat)
    (state : Option Kind × List (String × Json))
    (key : String)
    (tree : Tree) : Except ReadError (Option Kind × List (String × Json)) :=
  if key = "kind" then
    readOnce state.1 "kind" (kindOfTree tree) fun kind => (some kind, state.2)
  else do
    let value ← flawed (tree.value outside)
    return (state.1, (key, value) :: state.2)

theorem readTypeMembers_eq
    (outside : Nat)
    (found : Option Kind)
    (values : List (String × Json))
    (members : List (Spelling × Tree)) :
    readTypeMembers outside found values members =
      (do
        let state ← readMembers (takeUpTypePart outside) (found, values) members
        return (state.1, state.2.reverse)) := by
  induction members generalizing found values with
  | nil => rfl
  | cons member members ih =>
      simp only [readTypeMembers, readMembers, takeUpTypePart, bind_assoc]
      congr 1
      funext key
      split
      · rw [readOnce_bind]
        simp only [ih]
      · rw [bind_assoc]
        simp only [ih, pure_bind]

/-! ## Parts under keys of their own -/

/--
A part of what is read from an object: the key that it stands under, how it is read inside
some containers, where it is found among what was read, and how it is put there.
-/
structure MemberSlot (State : Type) where
  key : String
  Part : Type
  read : Nat → Tree → Except ReadError Part
  part : State → Option Part
  put : State → Part → State

section

variable {State : Type}

/-- Take up a member as the part that its key stands for; other members are passed over. -/
def takeUpMember
    (slots : List (MemberSlot State))
    (outside : Nat)
    (state : State)
    (key : String)
    (tree : Tree) : Except ReadError State :=
  match slots with
  | [] => do
    flawed tree.pass
    return state
  | slot :: slots =>
    if key = slot.key then
      readOnce (slot.part state) key (slot.read outside tree) (slot.put state)
    else takeUpMember slots outside state key tree

variable
    {slots : List (MemberSlot State)}
    {outside : Nat}
    {state state' : State}
    {key : String}
    {tree : Tree}

/-- A member under the key of a slot is taken up as the part of this slot. -/
theorem takeUpMember_of_mem
    {slot : MemberSlot State}
    (distinct : (slots.map MemberSlot.key).Nodup)
    (listed : slot ∈ slots) :
    takeUpMember slots outside state slot.key tree =
      readOnce (slot.part state) slot.key (slot.read outside tree) (slot.put state) := by
  induction slots with
  | nil => cases listed
  | cons first slots ih =>
      rw [List.map_cons, List.nodup_cons] at distinct
      rw [takeUpMember]
      rcases List.mem_cons.mp listed with rfl | later
      · rw [if_pos rfl]
      · have differs : slot.key ≠ first.key := by
          intro same
          apply distinct.1
          rw [← same]
          exact List.mem_map_of_mem later
        rw [if_neg differs]
        exact ih distinct.2 later

/-- A member whose key stands for no part is passed over. -/
theorem takeUpMember_of_not_mem
    (unknown : key ∉ slots.map MemberSlot.key) :
    takeUpMember slots outside state key tree =
      (do
        flawed tree.pass
        return state) := by
  induction slots with
  | nil => rfl
  | cons first slots ih =>
      rw [List.map_cons, List.mem_cons, not_or] at unknown
      rw [takeUpMember, if_neg unknown.1]
      exact ih unknown.2

/-- What putting each part keeps, taking up a member keeps. -/
theorem takeUpMember_keeps
    (holds : State → Prop)
    (each : ∀ slot ∈ slots, ∀ part,
      slot.read outside tree = .ok part → holds (slot.put state part))
    (before : holds state)
    (taken : takeUpMember slots outside state key tree = .ok state') :
    holds state' := by
  induction slots with
  | nil =>
      rcases exists_of_bind_eq_ok taken with ⟨_, _, same⟩
      cases same
      exact before
  | cons slot slots ih =>
      rw [takeUpMember] at taken
      split at taken
      · rcases exists_of_readOnce taken with ⟨part, read, rfl⟩
        exact each slot List.mem_cons_self part read
      · exact ih (fun other listed => each other (List.mem_cons_of_mem _ listed)) taken

end

/-! ## Fields -/

namespace FieldParts

abbrev nameSlot : MemberSlot FieldParts where
  key := "name"
  Part := String
  read := fun _ => stringOfTree
  part := FieldParts.name
  put := fun parts name => { parts with name := some name }

abbrev typeSlot : MemberSlot FieldParts where
  key := "type"
  Part := FieldType
  read := typeOfTree
  part := FieldParts.type
  put := fun parts type => { parts with type := some type }

abbrev requiredSlot : MemberSlot FieldParts where
  key := "required"
  Part := Bool
  read := fun _ => booleanOfTree
  part := FieldParts.required
  put := fun parts required => { parts with required := some required }

/-- The parts of a field, in the order in which their keys are tried. -/
def slots : List (MemberSlot FieldParts) :=
  [nameSlot, typeSlot, requiredSlot]

theorem mem_slots_iff {slot : MemberSlot FieldParts} :
    slot ∈ slots ↔ slot = nameSlot ∨ slot = typeSlot ∨ slot = requiredSlot := by
  simp [slots]

theorem nodup_keys : (slots.map MemberSlot.key).Nodup := by
  decide

end FieldParts

theorem readFieldMembers_eq
    (outside : Nat)
    (parts : FieldParts)
    (members : List (Spelling × Tree)) :
    readFieldMembers outside parts members =
      readMembers (takeUpMember FieldParts.slots outside) parts members := by
  induction members generalizing parts with
  | nil => rfl
  | cons member members ih =>
      rw [readFieldMembers, readMembers]
      congr 1
      funext key
      simp only [ih]
      -- The keys in the order in which they are tried.
      rw [FieldParts.slots, takeUpMember]
      split
      · rw [readOnce_bind]
      · rw [takeUpMember]
        split
        · rw [readOnce_bind]
        · rw [takeUpMember]
          split
          · rw [readOnce_bind]
          · rw [takeUpMember, bind_assoc]
            rfl

/-! ## Models -/

namespace ModelParts

abbrev nameSlot : MemberSlot ModelParts where
  key := "name"
  Part := String
  read := fun _ => stringOfTree
  part := ModelParts.name
  put := fun parts name => { parts with name := some name }

abbrev fieldsSlot : MemberSlot ModelParts where
  key := "fields"
  Part := List Field
  read := listOfTree fieldOfTree
  part := ModelParts.fields
  put := fun parts fields => { parts with fields := some fields }

abbrev requiredSlot : MemberSlot ModelParts where
  key := "requiredFieldNames"
  Part := List String
  read := stringsOfTree
  part := ModelParts.required
  put := fun parts required => { parts with required := some required }

abbrev ancestorsSlot : MemberSlot ModelParts where
  key := "ancestorNames"
  Part := List String
  read := stringsOfTree
  part := ModelParts.ancestors
  put := fun parts ancestors => { parts with ancestors := some ancestors }

/-- The parts of a model, in the order in which their keys are tried. -/
def slots : List (MemberSlot ModelParts) :=
  [nameSlot, fieldsSlot, requiredSlot, ancestorsSlot]

theorem mem_slots_iff {slot : MemberSlot ModelParts} :
    slot ∈ slots ↔
      slot = nameSlot ∨ slot = fieldsSlot ∨ slot = requiredSlot ∨ slot = ancestorsSlot := by
  simp [slots]

theorem nodup_keys : (slots.map MemberSlot.key).Nodup := by
  decide

end ModelParts

theorem readModelMembers_eq
    (outside : Nat)
    (parts : ModelParts)
    (members : List (Spelling × Tree)) :
    readModelMembers outside parts members =
      readMembers (takeUpMember ModelParts.slots outside) parts members := by
  induction members generalizing parts with
  | nil => rfl
  | cons member members ih =>
      rw [readModelMembers, readMembers]
      congr 1
      funext key
      simp only [ih]
      -- The keys in the order in which they are tried.
      rw [ModelParts.slots, takeUpMember]
      split
      · rw [readOnce_bind]
      · rw [takeUpMember]
        split
        · rw [readOnce_bind]
        · rw [takeUpMember]
          split
          · rw [readOnce_bind]
          · rw [takeUpMember]
            split
            · rw [readOnce_bind]
            · rw [takeUpMember, bind_assoc]
              rfl

/-! ## Graphs -/

/-- Take up a member of a graph: the model under its key. -/
def takeUpEntry
    (outside : Nat)
    (entries : List (String × Model))
    (key : String)
    (tree : Tree) : Except ReadError (List (String × Model)) := do
  let model ← modelOfTree outside tree
  return (key, model) :: entries

theorem readMembers_takeUpEntry
    (outside : Nat)
    (entries : List (String × Model))
    (members : List (Spelling × Tree)) :
    (do
      let entries ← readMembers (takeUpEntry outside) entries members
      return entries.reverse) =
      (do
        let others ← members.mapM (readEntry outside)
        return entries.reverse ++ others) := by
  induction members generalizing entries with
  | nil => exact congrArg Except.ok (List.append_nil _).symm
  | cons member members ih =>
      simp only [List.mapM_cons, readEntry, readMembers, takeUpEntry, bind_assoc, pure_bind, ih,
        List.reverse_cons, List.append_assoc, List.singleton_append]

theorem mapM_readEntry_eq (outside : Nat) (members : List (Spelling × Tree)) :
    members.mapM (readEntry outside) =
      (do
        let entries ← readMembers (takeUpEntry outside) [] members
        return entries.reverse) := by
  rw [readMembers_takeUpEntry]
  simp only [List.reverse_nil, List.nil_append, bind_pure]

end ModelLineage
