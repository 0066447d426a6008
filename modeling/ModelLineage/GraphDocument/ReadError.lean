import ModelLineage.Json.Numeral
import ModelLineage.Json.Printer
import ModelLineage.Schema.FieldType
import ModelLineage.Text.Quoted

/-!
# Errors of reading a document

Reading fails because the text is not JSON, or because it is JSON of another
shape than the document must have.  A mismatch of shape says what was found and
what was wanted.
-/

namespace ModelLineage

/-- The kinds of field types, which a document names in the member `kind`. -/
inductive Kind where
  | primitive
  | reference
  | list
  | map
  deriving DecidableEq, Inhabited

namespace Kind

/-- The word for a kind in a document. -/
def word : Kind → String
  | primitive => "primitive"
  | reference => "reference"
  | list => "list"
  | map => "map"

/-- The name of a kind in messages. -/
def label : Kind → String
  | primitive => "Primitive"
  | reference => "Reference"
  | list => "List"
  | map => "Map"

/-- The number of members that a type of a kind has beside its kind. -/
def partCount : Kind → Nat
  | primitive => 1
  | reference => 1
  | list => 2
  | map => 1

/-- All kinds, in the order of their numbers. -/
def all : List Kind := [primitive, reference, list, map]

/-- The kind that a word stands for. -/
def ofWord? (word : String) : Option Kind :=
  all.find? fun kind => kind.word = word

end Kind

/-- What stands where something else is wanted. -/
inductive Found where
  | null
  | boolean (value : Bool)
  | integer (value : Int)
  | real (value : Binary64)
  | string (text : String)
  | sequence
  | mapping
  deriving DecidableEq, Inhabited

/-- What is wanted at a place of a document. -/
inductive Wanted where
  | mapping
  | sequence
  | string
  | boolean
  | nothing
  | model
  | field
  | fieldType
  | kind
  | kindNumber
  | primitive
  | singleKey
  | fieldOfThree
  | partsOf (kind : Kind)
  | partsInSequence (count : Nat)
  deriving DecidableEq, Inhabited

/-- A document of another shape than wanted. -/
inductive Mismatch where
  | wrongType (found : Found) (wanted : Wanted)
  | wrongValue (found : Found) (wanted : Wanted)
  | wrongLength (length : Nat) (wanted : Wanted)
  | repeatedField (name : String)
  | missingField (name : String)
  | unknownWord (word : String) (choices : List String)
  deriving DecidableEq, Inhabited

/-- Why a text could not be read. -/
inductive ReadError where
  | flaw (flaw : Json.Flaw)
  | mismatch (mismatch : Mismatch)
  deriving DecidableEq, Inhabited

namespace Found

/-- What stands there, in words. -/
def text : Found → String
  | null => "null"
  | boolean true => "boolean `true`"
  | boolean false => "boolean `false`"
  | integer value => "integer `" ++ String.ofList (Json.integerText value) ++ "`"
  | real value => "floating point `" ++ value.text ++ "`"
  | string text => "string " ++ shownText text
  | sequence => "sequence"
  | mapping => "map"

/-- What a value is. -/
def ofValue : Json → Found
  | .null => null
  | .boolean value => boolean value
  | .integer value => integer value
  | .real value => real value
  | .string text => string text
  | .array _ => sequence
  | .object _ => mapping

end Found

namespace Wanted

/-- A number of elements, in words. -/
def elements (count : Nat) : String :=
  if count = 1 then "1 element" else count.repr ++ " elements"

/-- What is wanted, in words. -/
def text : Wanted → String
  | mapping => "a map"
  | sequence => "a sequence"
  | string => "a string"
  | boolean => "a boolean"
  | nothing => "unit"
  | model => "struct Model"
  | field => "struct Field"
  | fieldType => "internally tagged enum TypeDescriptor"
  | kind => "variant identifier"
  | kindNumber => "variant index 0 <= i < 4"
  | primitive => "string or map"
  | singleKey => "map with a single key"
  | fieldOfThree => "struct Field with 3 elements"
  | partsOf expected =>
    "struct variant TypeDescriptor::" ++ expected.label ++ " with " ++ elements expected.partCount
  | partsInSequence count => elements count ++ " in sequence"

end Wanted

namespace Mismatch

/-- Some words in backticks, with commas between them. -/
def listed (words : List String) : String :=
  ", ".intercalate (words.map fun word => "`" ++ word ++ "`")

/-- The wording of a mismatch. -/
def message : Mismatch → String
  | wrongType found wanted => "invalid type: " ++ found.text ++ ", expected " ++ wanted.text
  | wrongValue found wanted => "invalid value: " ++ found.text ++ ", expected " ++ wanted.text
  | wrongLength length wanted =>
    "invalid length " ++ length.repr ++ ", expected " ++ wanted.text
  | repeatedField name => "duplicate field `" ++ name ++ "`"
  | missingField name => "missing field `" ++ name ++ "`"
  | unknownWord word choices =>
    "unknown variant `" ++ word ++ "`, expected one of " ++ listed choices

end Mismatch

namespace ReadError

/-- The wording of an error. -/
def message : ReadError → String
  | flaw .ended => "the text ends inside a value"
  | flaw .malformed => "the text is malformed"
  | mismatch found => found.message

end ReadError

end ModelLineage
