import ModelLineage.GraphDocument.ModelReader
import ModelLineage.Proofs.GraphDocument.FieldTypes
import ModelLineage.Proofs.GraphDocument.Members
import ModelLineage.Proofs.Names.Lookup

/-!
# Models in documents

Fields, models and graphs are read back as they were written if the types of the
fields are.  The only thing that can go wrong is that a type has too many levels
for the place where it stands.
-/

namespace ModelLineage

open Json (Tree Spelling containerLimit)

theorem flawed_text_writtenText (text : String) :
    flawed (Json.writtenText text).text = .ok text := by
  rw [Json.text_writtenText]
  rfl

theorem openInside_of_lt
    {outside : Nat}
    (room : outside < containerLimit) :
    openInside outside = .ok () :=
  if_pos room

theorem openInside_of_not_lt
    {outside : Nat}
    (full : ¬ outside < containerLimit) :
    openInside outside = .error (.flaw .malformed) :=
  if_neg full

theorem stringOfTree_string (text : String) :
    stringOfTree (Json.string text).tree = .ok text :=
  flawed_text_writtenText text

/-- Strings that were written are read back. -/
theorem stringsOfTree_strings
    {outside : Nat}
    (texts : List String)
    (room : outside < containerLimit) :
    stringsOfTree outside (Json.strings texts).tree = .ok texts := by
  have items :
      (texts.map fun text => (Json.string text).tree).mapM stringOfTree =
        ifFits (.flaw .malformed) (∀ text ∈ texts, True) texts :=
    mapM_ifFits fun text _ => stringOfTree_string text
  rw [Json.strings, Json.tree, Json.treesOfItems_eq_map, List.map_map, stringsOfTree, listOfTree,
    openInside_of_lt room]
  show (texts.map fun text => (Json.string text).tree).mapM stringOfTree >>= _ = _
  rw [items, ifFits_of (by simp)]
  rfl

/-- A written member is read as the part of its key, if that part is still to come. -/
theorem readMembers_written_cons
    {State : Type} {slots : List (MemberSlot State)} {state : State} {outside : Nat}
    {tree : Tree} {members : List (Spelling × Tree)}
    (slot : MemberSlot State)
    {outcome : Except ReadError slot.Part}
    (distinct : (slots.map MemberSlot.key).Nodup)
    (listed : slot ∈ slots)
    (unread : slot.part state = none)
    (read : slot.read outside tree = outcome) :
    readMembers (takeUpMember slots outside) state
        ((Json.writtenText slot.key, tree) :: members) =
      (do
        let part ← outcome
        readMembers (takeUpMember slots outside) (slot.put state part) members) := by
  rw [readMembers, flawed_text_writtenText, ok_bind, takeUpMember_of_mem distinct listed,
    readOnce_bind, unread, read]
  rfl

/-! ## Fields -/

/-- A written field is read back if its type is. -/
theorem fieldOfTree_toJson
    (outside : Nat)
    (field : Field) :
    fieldOfTree outside field.toJson.tree =
      ifFits (.flaw .malformed) (field.type.depth + (outside + 1) ≤ containerLimit) field := by
  by_cases room : outside < containerLimit
  · have members :
        readFieldMembers (outside + 1) .none
            (Json.treesOfMembers
              [("name", .string field.name), ("type", field.type.toJson),
                ("required", .boolean field.required)]) =
          ifFits (.flaw .malformed) (field.type.depth + (outside + 1) ≤ containerLimit)
            ⟨some field.name, some field.type, some field.required⟩ := by
      rw [readFieldMembers_eq, Json.treesOfMembers,
        readMembers_written_cons FieldParts.nameSlot FieldParts.nodup_keys (.head _) rfl
          (stringOfTree_string _),
        ok_bind, Json.treesOfMembers,
        readMembers_written_cons FieldParts.typeSlot FieldParts.nodup_keys (.tail _ (.head _)) rfl
          (typeOfTree_toJson field.type room)]
      apply ifFits_bind_ok
      rw [Json.treesOfMembers,
        readMembers_written_cons FieldParts.requiredSlot FieldParts.nodup_keys
          (.tail _ (.tail _ (.head _))) rfl rfl]
      rfl
    rw [Field.toJson, Json.tree, fieldOfTree, openInside_of_lt room]
    show readFieldMembers (outside + 1) .none _ >>= _ = _
    rw [members]
    exact ifFits_bind_ok _ rfl
  · rw [Field.toJson, Json.tree, fieldOfTree, openInside_of_not_lt room,
      ifFits_of_not (by omega)]
    rfl

/-- Written fields are read back if all of them are. -/
theorem listOfTree_fields
    {outside : Nat}
    (fields : List Field)
    (room : outside < containerLimit) :
    listOfTree fieldOfTree outside (Json.array (fields.map Field.toJson)).tree =
      ifFits (.flaw .malformed)
        (∀ field ∈ fields, field.type.depth + (outside + 2) ≤ containerLimit) fields := by
  have items :
      (fields.map fun field => field.toJson.tree).mapM (fieldOfTree (outside + 1)) =
        ifFits (.flaw .malformed)
          (∀ field ∈ fields, field.type.depth + (outside + 2) ≤ containerLimit) fields :=
    mapM_ifFits fun field _ => fieldOfTree_toJson (outside + 1) field
  rw [Json.tree, Json.treesOfItems_eq_map, List.map_map, listOfTree, openInside_of_lt room]
  show (fields.map fun field => field.toJson.tree).mapM (fieldOfTree (outside + 1)) >>= _ = _
  rw [items]
  exact ifFits_bind_ok _ rfl

/-! ## Models -/

/-- A written model is read back if its fields are. -/
theorem modelOfTree_toJson
    {outside : Nat}
    (model : Model)
    (room : outside + 1 < containerLimit) :
    modelOfTree outside model.toJson.tree =
      ifFits (.flaw .malformed)
        (∀ field ∈ model.fields, field.type.depth + (outside + 3) ≤ containerLimit) model := by
  have members :
      readModelMembers (outside + 1) .none
          (Json.treesOfMembers
            [("name", .string model.name), ("fields", .array (model.fields.map Field.toJson)),
              ("requiredFieldNames", .strings model.required.toList),
              ("ancestorNames", .strings model.ancestors)]) =
        ifFits (.flaw .malformed)
          (∀ field ∈ model.fields, field.type.depth + (outside + 3) ≤ containerLimit)
          ⟨some model.name, some model.fields, some model.required.toList,
            some model.ancestors⟩ := by
    rw [readModelMembers_eq, Json.treesOfMembers,
      readMembers_written_cons ModelParts.nameSlot ModelParts.nodup_keys (.head _) rfl
        (stringOfTree_string _),
      ok_bind, Json.treesOfMembers,
      readMembers_written_cons ModelParts.fieldsSlot ModelParts.nodup_keys (.tail _ (.head _)) rfl
        (listOfTree_fields _ room)]
    apply ifFits_bind_ok
    rw [Json.treesOfMembers,
      readMembers_written_cons ModelParts.requiredSlot ModelParts.nodup_keys
        (.tail _ (.tail _ (.head _))) rfl (stringsOfTree_strings _ room),
      ok_bind, Json.treesOfMembers,
      readMembers_written_cons ModelParts.ancestorsSlot ModelParts.nodup_keys
        (.tail _ (.tail _ (.tail _ (.head _)))) rfl (stringsOfTree_strings _ room)]
    rfl
  have assembled :
      (⟨some model.name, some model.fields, some model.required.toList,
        some model.ancestors⟩ : ModelParts).assemble = model := by
    rw [ModelParts.assemble]
    show Model.mk model.name model.fields (.ofList model.required.toList) model.ancestors = model
    rw [NameSet.ofList_toList]
  rw [Model.toJson, Json.tree, modelOfTree, openInside_of_lt (Nat.lt_of_succ_lt room)]
  show readModelMembers (outside + 1) .none _ >>= _ = _
  rw [members]
  refine ifFits_bind_ok _ ?_
  show flawed (Json.Ending.closed.after (ModelParts.assemble _)) = _
  rw [assembled]
  rfl

/-! ## Graphs -/

theorem numberless_strings (texts : List String) : (Json.strings texts).Numberless := by
  show Json.NumberlessItems (texts.map Json.string)
  induction texts with
  | nil => trivial
  | cons text texts ih => exact ⟨trivial, ih⟩

theorem Field.numberless_toJson (field : Field) : field.toJson.Numberless :=
  ⟨trivial, field.type.numberless_toJson, trivial, trivial⟩

theorem Model.numberless_toJson (model : Model) : model.toJson.Numberless := by
  have fields : Json.NumberlessItems (model.fields.map Field.toJson) := by
    induction model.fields with
    | nil => trivial
    | cons field fields ih => exact ⟨field.numberless_toJson, ih⟩
  exact ⟨trivial, fields, numberless_strings _, numberless_strings _, trivial⟩

namespace ModelGraph

theorem numberless_toJson (graph : ModelGraph) : graph.toJson.Numberless := by
  show Json.NumberlessMembers (graph.entries.map fun entry => (entry.1, entry.2.toJson))
  induction graph.entries with
  | nil => trivial
  | cons entry entries ih => exact ⟨entry.2.numberless_toJson, ih⟩

/-- No field of a model in the graph has a type of more than 123 levels. -/
def Shallow (graph : ModelGraph) : Prop :=
  ∀ model ∈ graph.models, ∀ field ∈ model.fields, field.type.depth ≤ 123

instance (graph : ModelGraph) : Decidable graph.Shallow :=
  inferInstanceAs
    (Decidable (∀ model ∈ graph.models, ∀ field ∈ model.fields, field.type.depth ≤ 123))

/-- The field types of a graph stand inside four containers of its document. -/
theorem shallow_iff {graph : ModelGraph} :
    graph.Shallow ↔
      ∀ entry ∈ graph.entries,
        ∀ field ∈ entry.2.fields, field.type.depth + 4 ≤ containerLimit := by
  have levels (depth : Nat) : depth ≤ 123 ↔ depth + 4 ≤ containerLimit := by
    rw [Json.containerLimit]
    omega
  simp only [Shallow, models, NameMap.values, List.forall_mem_map, levels]

theorem graphOfTree_toJson (graph : ModelGraph) :
    graphOfTree 0 graph.toJson.tree = ifFits (.flaw .malformed) graph.Shallow graph := by
  have entries :
      (graph.entries.map fun entry => (Json.writtenText entry.1, entry.2.toJson.tree)).mapM
          (readEntry 1) =
        ifFits (.flaw .malformed)
          (∀ entry ∈ graph.entries,
            ∀ field ∈ entry.2.fields, field.type.depth + 4 ≤ containerLimit)
          graph.entries := by
    apply mapM_ifFits
    intro entry _
    rw [readEntry, flawed_text_writtenText]
    show modelOfTree 1 entry.2.toJson.tree >>= _ = _
    rw [modelOfTree_toJson entry.2 (by decide)]
    exact ifFits_bind_ok _ rfl
  rw [toJson, Json.tree, Json.treesOfMembers_eq_map, List.map_map, graphOfTree,
    openInside_of_lt (by decide)]
  show (graph.entries.map fun entry => (Json.writtenText entry.1, entry.2.toJson.tree)).mapM
    (readEntry 1) >>= _ = _
  rw [entries, ifFits_congr shallow_iff]
  refine ifFits_bind_ok _ ?_
  show Except.ok (NameMap.ofList graph.entries) = _
  rw [NameMap.ofList_entries]

/--
A graph is read back from its document, whatever blanks follow, if no type has
more than 123 levels.
-/
theorem ofText_document
    (graph : ModelGraph)
    {blanks : String}
    (blank : ∀ char ∈ blanks.toList, Json.isBlank char = true) :
    ofText (graph.document ++ blanks) = ifFits (.flaw .malformed) graph.Shallow graph := by
  rw [ofText, readWhole, document, Json.ofText_spreadText graph.numberless_toJson blank]
  show graphOfTree 0 graph.toJson.tree >>= _ = _
  rw [graphOfTree_toJson]
  exact ifFits_bind_ok _ rfl

end ModelGraph

end ModelLineage
