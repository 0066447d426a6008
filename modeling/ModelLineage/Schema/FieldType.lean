/-!
# Field types

The type of a model field is a primitive, a reference to another model by name,
a list or a map with string keys.  A list may be marked as having unique items.
-/

namespace ModelLineage

/-- The primitive types of a schema: a `type` with its `format`. -/
inductive Primitive where
  | string
  | integer
  | int32
  | int64
  | float
  | double
  | boolean
  | date
  | dateTime
  | binary
  | uri
  | uuid
  | decimal
  | any
  deriving DecidableEq, Inhabited

namespace Primitive

/-- The word for a primitive in a document. -/
def word : Primitive → String
  | string => "string"
  | integer => "integer"
  | int32 => "int32"
  | int64 => "int64"
  | float => "float"
  | double => "double"
  | boolean => "boolean"
  | date => "date"
  | dateTime => "date-time"
  | binary => "binary"
  | uri => "uri"
  | uuid => "uuid"
  | decimal => "decimal"
  | any => "any"

/-- The words a document may use, each with its primitive; `number` stands for a double. -/
def spellings : List (String × Primitive) :=
  [("string", string), ("integer", integer), ("int32", int32), ("int64", int64),
    ("float", float), ("double", double), ("number", double), ("boolean", boolean),
    ("date", date), ("date-time", dateTime), ("binary", binary), ("uri", uri),
    ("uuid", uuid), ("decimal", decimal), ("any", any)]

/-- The primitive that a word stands for. -/
def ofWord? (word : String) : Option Primitive :=
  spellings.lookup word

@[simp]
theorem ofWord?_word (primitive : Primitive) : ofWord? primitive.word = some primitive := by
  cases primitive <;> decide

end Primitive

/-- The type of a field. -/
inductive FieldType where
  | primitive (primitive : Primitive)
  | reference (model : String)
  | list (items : FieldType) (unique : Bool)
  | map (values : FieldType)
  deriving DecidableEq, Inhabited

namespace FieldType

/-- The model that a type refers to, seen through lists and maps. -/
def target? : FieldType → Option String
  | primitive _ => none
  | reference model => some model
  | list items _ => items.target?
  | map values => values.target?

/-- How many levels a type has; a primitive or a reference is one level. -/
def depth : FieldType → Nat
  | primitive _ => 1
  | reference _ => 1
  | list items _ => items.depth + 1
  | map values => values.depth + 1

end FieldType

end ModelLineage
