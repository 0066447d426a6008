import ModelLineage.GraphDocument.TypeReader
import ModelLineage.GraphDocument.Writer
import ModelLineage.Proofs.GraphDocument.Members
import ModelLineage.Proofs.Json.Nesting

/-!
# Field types in documents

Every level of a field type is a container in the document.  A type is therefore
read back as it was written unless its levels pass the limit on open containers,
and no document holds a type of more levels than that, however it spells it.
-/

namespace ModelLineage

open Json (Tree Spelling containerLimit)

namespace FieldType

theorem numberless_toJson (type : FieldType) : type.toJson.Numberless := by
  induction type with
  | primitive name => exact ⟨trivial, trivial, trivial⟩
  | reference model => exact ⟨trivial, trivial, trivial⟩
  | list items unique ih => exact ⟨trivial, ih, trivial, trivial⟩
  | map values ih => exact ⟨trivial, ih, trivial⟩

/-- A written type nests one container a level. -/
theorem nesting_toJson (type : FieldType) : type.toJson.nesting = type.depth := by
  induction type with
  | primitive name => rfl
  | reference model => rfl
  | list items unique ih =>
      rw [depth, ← ih]
      show max 0 (max items.toJson.nesting (max 0 0)) + 1 = _
      omega
  | map values ih =>
      rw [depth, ← ih]
      show max 0 (max values.toJson.nesting 0) + 1 = _
      omega

/-- The kind of a type. -/
def kind : FieldType → Kind
  | primitive _ => .primitive
  | reference _ => .reference
  | list _ _ => .list
  | map _ => .map

/-- What is written of a type beside its kind. -/
def parts : FieldType → List (String × Json)
  | primitive name => [("type", .string name.word)]
  | reference model => [("model", .string model)]
  | list items unique => [("items", items.toJson), ("uniqueItems", .boolean unique)]
  | map values => [("values", values.toJson)]

theorem toJson_eq (type : FieldType) :
    type.toJson = .object (("kind", .string type.kind.word) :: type.parts) := by
  cases type <;> rfl

theorem kind_not_mem_parts (type : FieldType) : ∀ part ∈ type.parts, part.1 ≠ "kind" := by
  cases type <;> simp [parts]

end FieldType

/-! ## Reading types back -/

theorem kindOfWord_word (kind : Kind) : kindOfWord kind.word = .ok kind := by
  have known : Kind.ofWord? kind.word = some kind := by
    cases kind <;> decide
  rw [kindOfWord, known]

theorem primitiveOfWord_word (primitive : Primitive) :
    primitiveOfWord primitive.word = .ok primitive := by
  rw [primitiveOfWord, Primitive.ofWord?_word]

theorem kindOfMembers_of_others
    {kind : Kind} {members : List (String × Json)}
    (others : ∀ member ∈ members, member.1 ≠ "kind") :
    kindOfMembers (some kind) members = .ok kind := by
  induction members with
  | nil => rfl
  | cons member members ih =>
      rcases member with ⟨key, value⟩
      rw [kindOfMembers, if_neg (others (key, value) List.mem_cons_self)]
      exact ih fun other listed => others other (List.mem_cons_of_mem _ listed)

theorem typeOfValue_of_parts
    {type : FieldType}
    (described : typeOfMembers type.kind .none type.parts = .ok type) :
    typeOfValue type.toJson = .ok type := by
  have kindFound :
      kindOfMembers none (("kind", .string type.kind.word) :: type.parts) = .ok type.kind := by
    rw [kindOfMembers, if_pos rfl, kindOfValue, kindOfWord_word]
    exact kindOfMembers_of_others type.kind_not_mem_parts
  have kindPassed : type.kind.part? "kind" = none := by
    cases type <;> rfl
  rw [type.toJson_eq, typeOfValue, kindFound]
  show typeOfMembers type.kind .none (("kind", .string type.kind.word) :: type.parts) = _
  rw [typeOfMembers, kindPassed]
  exact described

/-- The parts of a type describe it to a reader that knows its kind. -/
theorem typeOfMembers_parts (type : FieldType) :
    typeOfMembers type.kind .none type.parts = .ok type := by
  induction type with
  | primitive name =>
      simp [FieldType.kind, FieldType.parts, typeOfMembers, Kind.part?, TypeParts.has,
        TypeParts.none, TypeParts.assemble, primitiveOfValue, primitiveOfWord_word, bind,
        Except.bind]
  | reference model =>
      simp [FieldType.kind, FieldType.parts, typeOfMembers, Kind.part?, TypeParts.has,
        TypeParts.none, TypeParts.assemble, stringOfValue, bind, Except.bind]
  | list items unique ih =>
      simp [FieldType.kind, FieldType.parts, typeOfMembers, Kind.part?, TypeParts.has,
        TypeParts.none, TypeParts.assemble, typeOfValue_of_parts ih, booleanOfValue, bind,
        Except.bind]
  | map values ih =>
      simp [FieldType.kind, FieldType.parts, typeOfMembers, Kind.part?, TypeParts.has,
        TypeParts.none, TypeParts.assemble, typeOfValue_of_parts ih, bind, Except.bind]

theorem flawed_ifFits
    {Value : Type} {fits : Prop} [Decidable fits] {flaw : Json.Flaw}
    (value : Value) :
    flawed (ifFits flaw fits value) = ifFits (.flaw flaw) fits value := by
  rw [ifFits, ifFits]
  split <;> rfl

theorem readTypeMembers_treesOfMembers
    {found : Option Kind} {members : List (String × Json)} {outside : Nat}
    (numberless : Json.NumberlessMembers members)
    (others : ∀ member ∈ members, member.1 ≠ "kind")
    (room : outside ≤ containerLimit)
    (values : List (String × Json)) :
    readTypeMembers outside found values (Json.treesOfMembers members) =
      ifFits (.flaw .malformed) (Json.nestingOfMembers members + outside ≤ containerLimit)
        (found, values.reverse ++ members) := by
  induction members generalizing values with
  | nil =>
      rw [Json.nestingOfMembers, Nat.zero_add, ifFits_of room, List.append_nil]
      rfl
  | cons member members ih =>
      rcases member with ⟨key, value⟩
      have rest := ih numberless.2
        (fun other listed => others other (List.mem_cons_of_mem _ listed))
        ((key, value) :: values)
      have both :
          value.nesting + outside ≤ containerLimit ∧
              Json.nestingOfMembers members + outside ≤ containerLimit ↔
            Json.nestingOfMembers ((key, value) :: members) + outside ≤ containerLimit := by
        rw [Json.nestingOfMembers]
        omega
      rw [Json.treesOfMembers, readTypeMembers, Json.text_writtenText, ← ifFits_congr both]
      show (if key = "kind" then _ else flawed (value.tree.value outside) >>= _) = _
      rw [if_neg (others (key, value) List.mem_cons_self), Json.value_tree numberless.1 room,
        flawed_ifFits]
      apply ifFits_bind
      rw [rest, List.reverse_cons, List.append_assoc]
      rfl

theorem kindOfTree_word (kind : Kind) :
    kindOfTree (.text (Json.writtenText kind.word)) = .ok kind := by
  rw [kindOfTree, Json.text_writtenText]
  show mismatched (kindOfWord kind.word) = _
  rw [kindOfWord_word]
  rfl

/-- A written type is read back if its levels fit into the limit. -/
theorem typeOfTree_toJson
    {outside : Nat}
    (type : FieldType)
    (room : outside ≤ containerLimit) :
    typeOfTree outside type.toJson.tree =
      ifFits (.flaw .malformed) (type.depth + outside ≤ containerLimit) type := by
  have numberless := type.numberless_toJson
  have depth := type.nesting_toJson
  rw [type.toJson_eq] at numberless depth
  rw [type.toJson_eq, ← depth, Json.nesting, Json.nestingOfMembers]
  show openInside outside >>= _ = _
  by_cases inside : outside < containerLimit
  · have kindRead :
        readTypeMembers (outside + 1) none []
            ((Json.writtenText "kind", .text (Json.writtenText type.kind.word)) ::
              Json.treesOfMembers type.parts) =
          readTypeMembers (outside + 1) (some type.kind) []
            (Json.treesOfMembers type.parts) := by
      rw [readTypeMembers, Json.text_writtenText]
      show kindOfTree (.text (Json.writtenText type.kind.word)) >>= _ = _
      rw [kindOfTree_word]
      rfl
    have partsRead :
        readTypeMembers (outside + 1) (some type.kind) [] (Json.treesOfMembers type.parts) = _ :=
      readTypeMembers_treesOfMembers numberless.2 type.kind_not_mem_parts inside []
    have described : mismatched (typeOfMembers type.kind .none type.parts) = .ok type := by
      rw [typeOfMembers_parts]
      rfl
    have sameDepth :
        Json.nestingOfMembers type.parts + (outside + 1) ≤ containerLimit ↔
          max 0 (Json.nestingOfMembers type.parts) + 1 + outside ≤ containerLimit := by
      omega
    rw [openInside, if_pos inside]
    show readTypeMembers (outside + 1) none []
      ((Json.writtenText "kind", .text (Json.writtenText type.kind.word)) ::
        Json.treesOfMembers type.parts) >>= _ = _
    rw [kindRead, partsRead]
    refine (ifFits_bind_ok _ ?_).trans (ifFits_congr sameDepth type)
    exact described
  · rw [openInside, if_neg inside, ifFits_of_not (by omega)]
    rfl

/-! ## The levels of a type that is read -/

/-- The types among the parts that were read have no more than some levels. -/
structure TypeParts.Within (parts : TypeParts) (bound : Nat) : Prop where
  items : ∀ type, parts.items = some type → type.depth ≤ bound
  values : ∀ type, parts.values = some type → type.depth ≤ bound

theorem TypeParts.depth_le_of_assemble
    {parts : TypeParts} {bound : Nat} {kind : Kind} {type : FieldType}
    (within : parts.Within bound)
    (assembled : parts.assemble kind = .ok type) :
    type.depth ≤ bound + 1 := by
  cases kind with
  | primitive =>
      rw [assemble] at assembled
      split at assembled
      · cases assembled
        simp [FieldType.depth]
      · cases assembled
  | reference =>
      rw [assemble] at assembled
      split at assembled
      · cases assembled
        simp [FieldType.depth]
      · cases assembled
  | list =>
      rw [assemble] at assembled
      split at assembled
      · rename_i items known
        cases assembled
        exact Nat.succ_le_succ (within.items items known)
      · cases assembled
  | map =>
      rw [assemble] at assembled
      split at assembled
      · rename_i values known
        cases assembled
        exact Nat.succ_le_succ (within.values values known)
      · cases assembled

theorem depth_le_of_typeOfMembers
    {kind : Kind} {members : List (String × Json)} {bound : Nat} {type : FieldType}
    (each : ∀ member ∈ members, ∀ type,
      typeOfValue member.2 = .ok type → type.depth ≤ member.2.nesting)
    (limit : Json.nestingOfMembers members ≤ bound)
    (parts : TypeParts)
    (within : parts.Within bound)
    (described : typeOfMembers kind parts members = .ok type) :
    type.depth ≤ bound + 1 := by
  induction members generalizing parts with
  | nil => exact TypeParts.depth_le_of_assemble within described
  | cons member members ih =>
      rcases member with ⟨key, value⟩
      rw [Json.nestingOfMembers] at limit
      have first : value.nesting ≤ bound := by
        omega
      have rest : Json.nestingOfMembers members ≤ bound := by
        omega
      have later := ih (fun other listed => each other (List.mem_cons_of_mem _ listed)) rest
      have levels : ∀ type, typeOfValue value = .ok type → type.depth ≤ bound := by
        intro type read
        exact Nat.le_trans (each (key, value) List.mem_cons_self type read) first
      rw [typeOfMembers] at described
      split at described
      · exact later parts within described
      · split at described
        · cases described
        · -- The parts in the order of `TypePart`; items and values are types themselves.
          split at described
          · rcases exists_of_bind_eq_ok described with ⟨primitive, _, others⟩
            refine later _ ?_ others
            exact ⟨within.items, within.values⟩
          · rcases exists_of_bind_eq_ok described with ⟨model, _, others⟩
            refine later _ ?_ others
            exact ⟨within.items, within.values⟩
          · rcases exists_of_bind_eq_ok described with ⟨items, read, others⟩
            refine later _ ⟨?_, ?_⟩ others
            · intro type same
              cases same
              exact levels items read
            · exact within.values
          · rcases exists_of_bind_eq_ok described with ⟨unique, _, others⟩
            refine later _ ?_ others
            exact ⟨within.items, within.values⟩
          · rcases exists_of_bind_eq_ok described with ⟨values, read, others⟩
            refine later _ ⟨?_, ?_⟩ others
            · exact within.items
            · intro type same
              cases same
              exact levels values read

theorem type_of_ifLast
    {count : Nat} {left : List Json} {type type' : FieldType}
    (accepted : ifLast count left type = .ok type') :
    type' = type := by
  rw [ifLast] at accepted
  split at accepted
  · cases accepted
    rfl
  · cases accepted

theorem depth_le_of_typeOfItems
    {kind : Kind} {items : List Json} {type : FieldType}
    (each : ∀ item ∈ items, ∀ type, typeOfValue item = .ok type → type.depth ≤ item.nesting)
    (described : typeOfItems kind items = .ok type) :
    type.depth ≤ Json.nestingOfItems items + 1 := by
  cases items with
  | nil => cases described
  | cons first items =>
      have inside : ∀ type, typeOfValue first = .ok type →
          type.depth ≤ Json.nestingOfItems (first :: items) := by
        intro type read
        rw [Json.nestingOfItems]
        exact Nat.le_trans (each first List.mem_cons_self type read) (Nat.le_max_left ..)
      cases kind with
      | primitive =>
          rcases exists_of_bind_eq_ok described with ⟨primitive, _, accepted⟩
          rw [type_of_ifLast accepted, FieldType.depth]
          omega
      | reference =>
          rcases exists_of_bind_eq_ok described with ⟨model, _, accepted⟩
          rw [type_of_ifLast accepted, FieldType.depth]
          omega
      | list =>
          rcases exists_of_bind_eq_ok described with ⟨content, read, others⟩
          have bound := inside content read
          cases items with
          | nil =>
              cases others
              exact Nat.succ_le_succ bound
          | cons second items =>
              rcases exists_of_bind_eq_ok others with ⟨unique, _, accepted⟩
              rw [type_of_ifLast accepted]
              exact Nat.succ_le_succ bound
      | map =>
          rcases exists_of_bind_eq_ok described with ⟨content, read, accepted⟩
          rw [type_of_ifLast accepted]
          exact Nat.succ_le_succ (inside content read)

/-- A value nests at least as deeply as the type that it describes has levels. -/
theorem depth_le_nesting
    {value : Json} {type : FieldType}
    (described : typeOfValue value = .ok type) :
    type.depth ≤ value.nesting := by
  induction value using Json.nested_induction generalizing type with
  | null => cases described
  | boolean value => cases described
  | integer value => cases described
  | real value => cases described
  | string text => cases described
  | array items ih =>
      cases items with
      | nil => cases described
      | cons first items =>
          rcases exists_of_bind_eq_ok described with ⟨kind, _, others⟩
          have bound := depth_le_of_typeOfItems
            (fun item listed type read => ih item (List.mem_cons_of_mem _ listed) read) others
          rw [Json.nesting, Json.nestingOfItems]
          omega
  | object members ih =>
      rcases exists_of_bind_eq_ok described with ⟨kind, _, others⟩
      rw [Json.nesting]
      refine depth_le_of_typeOfMembers (fun member listed type read => ih member listed read)
        (Nat.le_refl _) .none ⟨?_, ?_⟩ others
      · intro type same
        cases same
      · intro type same
        cases same

theorem of_flawed
    {Value : Type} {outcome : Except Json.Flaw Value} {value : Value}
    (read : flawed outcome = .ok value) :
    outcome = .ok value :=
  ok_of_mapError_eq_ok read

theorem of_mismatched
    {Value : Type} {outcome : Except Mismatch Value} {value : Value}
    (read : mismatched outcome = .ok value) :
    outcome = .ok value :=
  ok_of_mapError_eq_ok read

theorem lt_of_openInside
    {outside : Nat} {done : Unit}
    (opened : openInside outside = .ok done) :
    outside < containerLimit := by
  rw [openInside] at opened
  split at opened
  · assumption
  · cases opened

theorem nesting_le_of_takeUpTypePart
    {outside : Nat} {state state' : Option Kind × List (String × Json)}
    {key : String} {tree : Tree}
    (room : outside ≤ containerLimit)
    (before : ∀ member ∈ state.2, member.2.nesting + outside ≤ containerLimit)
    (taken : takeUpTypePart outside state key tree = .ok state') :
    ∀ member ∈ state'.2, member.2.nesting + outside ≤ containerLimit := by
  rw [takeUpTypePart] at taken
  split at taken
  · rcases exists_of_readOnce taken with ⟨kind, _, rfl⟩
    exact before
  · rcases exists_of_bind_eq_ok taken with ⟨value, valueRead, same⟩
    cases same
    intro member listed
    rcases List.mem_cons.mp listed with rfl | earlier
    · exact Json.nesting_le_of_value room (of_flawed valueRead)
    · exact before member earlier

/-- The values among the members of a type keep to the limit. -/
theorem nesting_le_of_readTypeMembers
    {outside : Nat} {kind : Option Kind} {members : List (Spelling × Tree)}
    {values : List (String × Json)}
    (room : outside ≤ containerLimit)
    (read : readTypeMembers outside none [] members = .ok (kind, values)) :
    ∀ member ∈ values, member.2.nesting + outside ≤ containerLimit := by
  rw [readTypeMembers_eq] at read
  rcases exists_of_bind_eq_ok read with ⟨state, membersRead, same⟩
  cases same
  have within : ∀ member ∈ state.2, member.2.nesting + outside ≤ containerLimit :=
    readMembers_keeps
      (fun state => ∀ member ∈ state.2, member.2.nesting + outside ≤ containerLimit)
      (nesting_le_of_takeUpTypePart room) (by simp) membersRead
  intro member listed
  exact within member (List.mem_reverse.mp listed)

/-- The levels of a type that is read from a tree fit into the limit. -/
theorem depth_le_of_typeOfTree
    {outside : Nat} {tree : Tree} {type : FieldType}
    (described : typeOfTree outside tree = .ok type) :
    type.depth + outside ≤ containerLimit := by
  match tree, described with
  | .object members ending, described =>
      rcases exists_of_bind_eq_ok described with ⟨_, opened, later⟩
      rcases exists_of_bind_eq_ok later with ⟨⟨kind, values⟩, read, later⟩
      rcases exists_of_bind_eq_ok later with ⟨_, _, later⟩
      have room := lt_of_openInside opened
      have each := nesting_le_of_readTypeMembers room read
      cases kind with
      | none => cases later
      | some kind =>
          have limit : Json.nestingOfMembers values ≤ containerLimit - (outside + 1) := by
            apply Json.nestingOfMembers_le_iff.mpr
            intro member listed
            exact Nat.le_sub_of_add_le (each member listed)
          have bound : type.depth ≤ containerLimit - (outside + 1) + 1 := by
            refine depth_le_of_typeOfMembers (fun _ _ _ inside => depth_le_nesting inside)
              limit .none ⟨?_, ?_⟩ (of_mismatched later)
            · intro type same
              cases same
            · intro type same
              cases same
          omega
  | .array [] ending, described =>
      rcases exists_of_bind_eq_ok described with ⟨_, _, later⟩
      rcases exists_of_bind_eq_ok later with ⟨_, _, later⟩
      cases later
  | .array (first :: items) ending, described =>
      rcases exists_of_bind_eq_ok described with ⟨_, opened, later⟩
      rcases exists_of_bind_eq_ok later with ⟨kind, _, later⟩
      rcases exists_of_bind_eq_ok later with ⟨values, read, later⟩
      rcases exists_of_bind_eq_ok later with ⟨_, _, later⟩
      have room := lt_of_openInside opened
      have limit := Json.nestingOfItems_le_of_values room (of_flawed read)
      have bound := depth_le_of_typeOfItems (fun _ _ _ inside => depth_le_nesting inside)
        (of_mismatched later)
      omega
  | .null, described => cases described
  | .boolean _, described => cases described
  | .numeral _, described => cases described
  | .cutNumeral, described => cases described
  | .text _, described => cases described
  | .flaw _, described => cases described

end ModelLineage
