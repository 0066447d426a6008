import ModelLineage.Schema.FieldType

/-!
# Swift declarations of field types

The stock spelling declares a list with unique items as a `Set`.  The literal
spelling declares every list by an array literal, so that models and the runtime
library agree on one kind of collection.  Both spell everything else alike.
-/

namespace ModelLineage

/-- The Swift name of a primitive. -/
def Primitive.swiftName : Primitive → String
  | .string => "String"
  | .integer => "Int"
  | .int32 => "Int32"
  | .int64 => "Int64"
  | .float => "Float"
  | .double => "Double"
  | .boolean => "Bool"
  | .date => "Date"
  | .dateTime => "Date"
  | .binary => "URL"
  | .uri => "URL"
  | .uuid => "UUID"
  | .decimal => "Decimal"
  | .any => "AnyCodable"

namespace FieldType

/-- The stock spelling of the outermost level of a type, with the inner level spelled by `inner`. -/
def declarationWith (inner : FieldType → String) : FieldType → String
  | primitive name => name.swiftName
  | reference model => model
  | list items true => "Set<" ++ inner items ++ ">"
  | list items false => "[" ++ inner items ++ "]"
  | map values => "[String: " ++ inner values ++ "]"

/-- The stock spelling of a type. -/
def stockDeclaration : FieldType → String
  | primitive name => name.swiftName
  | reference model => model
  | list items true => "Set<" ++ items.stockDeclaration ++ ">"
  | list items false => "[" ++ items.stockDeclaration ++ "]"
  | map values => "[String: " ++ values.stockDeclaration ++ "]"

/-- The spelling of a type with every list as an array literal. -/
def literalDeclaration : FieldType → String
  | primitive name => name.swiftName
  | reference model => model
  | list items _ => "[" ++ items.literalDeclaration ++ "]"
  | map values => "[String: " ++ values.literalDeclaration ++ "]"

/-- The stock spelling applies its outermost rule at every level. -/
theorem stockDeclaration_eq (type : FieldType) :
    type.stockDeclaration = declarationWith stockDeclaration type := by
  cases type with
  | list items unique => cases unique <;> rfl
  | _ => rfl

/-- The literal spelling has a rule for lists and leaves all other types to the stock rule. -/
theorem literalDeclaration_eq (type : FieldType) :
    type.literalDeclaration =
      match type with
      | list items _ => "[" ++ items.literalDeclaration ++ "]"
      | other => declarationWith literalDeclaration other := by
  cases type <;> rfl

end FieldType

end ModelLineage
