import Mathlib.Data.List.Forall2
import ModelLineage.GraphDocument.TypeReader
import ModelLineage.GraphDocument.Writer

/-!
# Abbreviated documents

A document need not have the form in which it is written out.  The members of a type,
a field and a model may stand in any order, and members with other keys may stand among
them.  What is empty or false may be left out, and so may the name of a model.  A field
is required if its flag says so or if its model lists it, so that one of the two is
enough, and the model may list its required fields in any order and more than once.

What is described here is the form of the value that a document spells.  It is stated
without reference to how documents are read.
-/

namespace ModelLineage

/-- Members that are described, in any order, and others whose keys have no meaning here. -/
def Scattered (keys : List String) (described members : List (String × Json)) : Prop :=
  ∃ added, (∀ member ∈ added, member.1 ∉ keys) ∧ members.Perm (described ++ added)

/-- What stands for a member that may be left out where it is needless. -/
inductive Omissible (member : String × Json) (needless : Prop) : List (String × Json) → Prop where
  | written :
      Omissible member needless [member]
  | omitted
      (unneeded : needless) :
      Omissible member needless []

/-- The words for a primitive; a double may also be called a number. -/
def Primitive.SpelledBy (primitive : Primitive) (word : String) : Prop :=
  word = primitive.word ∨ primitive = .double ∧ word = "number"

/-- The keys with a meaning in a type of a kind. -/
def Kind.keys : Kind → List String
  | primitive => ["kind", "type"]
  | reference => ["kind", "model"]
  | list => ["kind", "items", "uniqueItems"]
  | map => ["kind", "values"]

/-- The keys with a meaning in a field. -/
def Field.keys : List String :=
  ["name", "type", "required"]

/-- The keys with a meaning in a model. -/
def Model.keys : List String :=
  ["name", "fields", "requiredFieldNames", "ancestorNames"]

/-- The values that a type may be written as. -/
inductive FieldType.AbbreviatedBy : FieldType → Json → Prop where
  | primitive {name : Primitive} {word : String} {members : List (String × Json)}
      (spelled : name.SpelledBy word)
      (scattered :
        Scattered Kind.primitive.keys
          [("kind", .string "primitive"), ("type", .string word)] members) :
      AbbreviatedBy (.primitive name) (.object members)
  | reference {model : String} {members : List (String × Json)}
      (scattered :
        Scattered Kind.reference.keys
          [("kind", .string "reference"), ("model", .string model)] members) :
      AbbreviatedBy (.reference model) (.object members)
  | list {items : FieldType} {unique : Bool} {value : Json} {mark members : List (String × Json)}
      (content : AbbreviatedBy items value)
      (marked : Omissible ("uniqueItems", .boolean unique) (unique = false) mark)
      (scattered :
        Scattered Kind.list.keys
          ([("kind", .string "list"), ("items", value)] ++ mark) members) :
      AbbreviatedBy (.list items unique) (.object members)
  | map {values : FieldType} {value : Json} {members : List (String × Json)}
      (content : AbbreviatedBy values value)
      (scattered :
        Scattered Kind.map.keys [("kind", .string "map"), ("values", value)] members) :
      AbbreviatedBy (.map values) (.object members)

/-- The values that a field may be written as in a model that lists some names as required. -/
inductive Field.AbbreviatedBy (listed : List String) (field : Field) : Json → Prop where
  | intro {type : Json} {flag members : List (String × Json)}
      (typed : field.type.AbbreviatedBy type)
      (flagged :
        Omissible ("required", .boolean field.required)
          (field.required = false ∨ field.name ∈ listed) flag)
      (scattered :
        Scattered Field.keys
          ([("name", .string field.name), ("type", type)] ++ flag) members) :
      AbbreviatedBy listed field (.object members)

/--
The values that a model may be written as.  It lists only names that are required, but
perhaps not all of them.
-/
inductive Model.AbbreviatedBy (model : Model) : Json → Prop where
  | intro
      {listed : List String} {values : List Json}
      {name fields required ancestors members : List (String × Json)}
      (demanded : ∀ name ∈ listed, name ∈ model.required)
      (each : List.Forall₂ (Field.AbbreviatedBy listed) model.fields values)
      (named : Omissible ("name", .string model.name) True name)
      (declared : Omissible ("fields", .array values) (model.fields = []) fields)
      (demands : Omissible ("requiredFieldNames", .strings listed) (listed = []) required)
      (descent :
        Omissible ("ancestorNames", .strings model.ancestors) (model.ancestors = []) ancestors)
      (scattered : Scattered Model.keys (name ++ fields ++ required ++ ancestors) members) :
      AbbreviatedBy model (.object members)

/-- The values that a graph may be written as: its models under their keys, in key order. -/
inductive ModelGraph.AbbreviatedBy (graph : ModelGraph) : Json → Prop where
  | intro {members : List (String × Json)}
      (each :
        List.Forall₂
          (fun entry member => member.1 = entry.1 ∧ Model.AbbreviatedBy entry.2 member.2)
          graph.entries members) :
      AbbreviatedBy graph (.object members)

/-! ## The document itself -/

theorem scattered_self
    (keys : List String)
    (described : List (String × Json)) :
    Scattered keys described described :=
  ⟨[], by simp, by rw [List.append_nil]⟩

theorem FieldType.abbreviatedBy_toJson (type : FieldType) : type.AbbreviatedBy type.toJson := by
  induction type with
  | primitive name => exact .primitive (.inl rfl) (scattered_self _ _)
  | reference model => exact .reference (scattered_self _ _)
  | list items unique ih => exact .list ih .written (scattered_self _ _)
  | map values ih => exact .map ih (scattered_self _ _)

theorem Field.abbreviatedBy_toJson
    (listed : List String)
    (field : Field) :
    field.AbbreviatedBy listed field.toJson :=
  .intro field.type.abbreviatedBy_toJson .written (scattered_self _ _)

theorem Model.abbreviatedBy_toJson (model : Model) : model.AbbreviatedBy model.toJson := by
  have fields : List.Forall₂ (Field.AbbreviatedBy model.required.toList) model.fields
      (model.fields.map Field.toJson) := by
    rw [List.forall₂_map_right_iff]
    exact List.forall₂_same.mpr fun field _ => field.abbreviatedBy_toJson _
  exact .intro (fun _ known => known) fields .written .written .written .written
    (scattered_self _ _)

/-- What is written of a graph is one of its abbreviations, the one that leaves nothing out. -/
theorem ModelGraph.abbreviatedBy_toJson (graph : ModelGraph) :
    graph.AbbreviatedBy graph.toJson := by
  apply ModelGraph.AbbreviatedBy.intro
  rw [List.forall₂_map_right_iff]
  exact List.forall₂_same.mpr fun entry _ => ⟨rfl, entry.2.abbreviatedBy_toJson⟩

end ModelLineage
