import ModelLineage.Json.Printer
import ModelLineage.Schema.ModelGraph

/-!
# Writing models

Every part of a graph is written out, also those that a reader would take for
granted, and always in the same order.
-/

namespace ModelLineage

/-- A type as a value. -/
def FieldType.toJson : FieldType → Json
  | primitive name => .object [("kind", .string "primitive"), ("type", .string name.word)]
  | reference model => .object [("kind", .string "reference"), ("model", .string model)]
  | list items unique =>
    .object
      [("kind", .string "list"), ("items", items.toJson), ("uniqueItems", .boolean unique)]
  | map values => .object [("kind", .string "map"), ("values", values.toJson)]

/-- A field as a value. -/
def Field.toJson (field : Field) : Json :=
  .object
    [("name", .string field.name), ("type", field.type.toJson),
      ("required", .boolean field.required)]

/-- A model as a value. -/
def Model.toJson (model : Model) : Json :=
  .object
    [("name", .string model.name), ("fields", .array (model.fields.map Field.toJson)),
      ("requiredFieldNames", .strings model.required.toList),
      ("ancestorNames", .strings model.ancestors)]

namespace ModelGraph

/-- A graph as a value. -/
def toJson (graph : ModelGraph) : Json :=
  .object (graph.entries.map fun entry => (entry.1, entry.2.toJson))

/-- The document of a graph. -/
def document (graph : ModelGraph) : String :=
  graph.toJson.spreadText

end ModelGraph

end ModelLineage
