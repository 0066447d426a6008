import ModelLineage.GraphDocument.TypeReader
import ModelLineage.Schema.ModelGraph

/-!
# Reading models

A graph is written as an object from keys to models.  A model and a field are
written as objects, or as arrays of their parts in a fixed order.  Keys that an
object does not know are passed over.
-/

namespace ModelLineage

open Json (Tree Spelling Ending Flaw)

/-- The string that a tree spells. -/
def stringOfTree : Tree → Except ReadError String
  | .text spelling => flawed spelling.text
  | tree => .error (wrongTree .string tree)

/-- The truth value that a tree spells. -/
def booleanOfTree : Tree → Except ReadError Bool
  | .boolean value => .ok value
  | tree => .error (wrongTree .boolean tree)

/-- The list that a tree spells, its items read by a reader of their own. -/
def listOfTree {Value : Type} (read : Nat → Tree → Except ReadError Value) (outside : Nat) :
    Tree → Except ReadError (List Value)
  | .array items ending => do
    openInside outside
    let values ← items.mapM (read (outside + 1))
    flawed (ending.after values)
  | tree => .error (wrongTree .sequence tree)

/-- The list of strings that a tree spells. -/
def stringsOfTree (outside : Nat) (tree : Tree) : Except ReadError (List String) :=
  listOfTree (fun _ => stringOfTree) outside tree

/-- An array that goes on after its last part is malformed. -/
def endOfParts {Value : Type} (ending : Ending) (value : Value) :
    List Tree → Except ReadError Value
  | [] => flawed (ending.after value)
  | _ :: _ => .error (.flaw .malformed)

/-! ## Fields -/

/-- The parts of a field that were read so far. -/
structure FieldParts where
  name : Option String
  type : Option FieldType
  required : Option Bool
  deriving Inhabited

namespace FieldParts

/-- Before any part is read. -/
def none : FieldParts := ⟨.none, .none, .none⟩

/-- Put the parts together; unless it says so, a field is not required. -/
def assemble (parts : FieldParts) : Except Mismatch Field :=
  match parts.name, parts.type with
  | .none, _ => .error (.missingField "name")
  | some _, .none => .error (.missingField "type")
  | some name, some type => .ok ⟨name, type, parts.required.getD false⟩

end FieldParts

/-- Read the members of a field, `outside` being the number of open containers. -/
def readFieldMembers (outside : Nat) (parts : FieldParts) :
    List (Spelling × Tree) → Except ReadError FieldParts
  | [] => .ok parts
  | (key, tree) :: members => do
    let key ← flawed key.text
    if key = "name" then
      if parts.name.isSome then throw (.mismatch (.repeatedField key))
      else
        let name ← stringOfTree tree
        readFieldMembers outside { parts with name := some name } members
    else if key = "type" then
      if parts.type.isSome then throw (.mismatch (.repeatedField key))
      else
        let type ← typeOfTree outside tree
        readFieldMembers outside { parts with type := some type } members
    else if key = "required" then
      if parts.required.isSome then throw (.mismatch (.repeatedField key))
      else
        let required ← booleanOfTree tree
        readFieldMembers outside { parts with required := some required } members
    else
      flawed tree.pass
      readFieldMembers outside parts members

/-- Read the items of a field: its name, its type and perhaps its required flag. -/
def readFieldItems (outside : Nat) (ending : Ending) : List Tree → Except ReadError Field
  | [] => do
    flawed (ending.after ())
    throw (.mismatch (.wrongLength 0 .fieldOfThree))
  | [name] => do
    let _ ← stringOfTree name
    flawed (ending.after ())
    throw (.mismatch (.wrongLength 1 .fieldOfThree))
  | [name, type] => do
    let name ← stringOfTree name
    let type ← typeOfTree outside type
    flawed (ending.after ⟨name, type, false⟩)
  | name :: type :: required :: items => do
    let name ← stringOfTree name
    let type ← typeOfTree outside type
    let required ← booleanOfTree required
    endOfParts ending ⟨name, type, required⟩ items

/-- The field that a tree describes. -/
def fieldOfTree (outside : Nat) : Tree → Except ReadError Field
  | .object members ending => do
    openInside outside
    let parts ← readFieldMembers (outside + 1) .none members
    flawed (ending.after ())
    mismatched parts.assemble
  | .array items ending => do
    openInside outside
    readFieldItems (outside + 1) ending items
  | tree => .error (wrongTree .field tree)

/-! ## Models -/

/-- The parts of a model that were read so far. -/
structure ModelParts where
  name : Option String
  fields : Option (List Field)
  required : Option (List String)
  ancestors : Option (List String)
  deriving Inhabited

namespace ModelParts

/-- Before any part is read. -/
def none : ModelParts := ⟨.none, .none, .none, .none⟩

/-- Put the parts together; those that are missing are empty. -/
def assemble (parts : ModelParts) : Model where
  name := parts.name.getD ""
  fields := parts.fields.getD []
  required := .ofList (parts.required.getD [])
  ancestors := parts.ancestors.getD []

end ModelParts

/-- Read the members of a model, `outside` being the number of open containers. -/
def readModelMembers (outside : Nat) (parts : ModelParts) :
    List (Spelling × Tree) → Except ReadError ModelParts
  | [] => .ok parts
  | (key, tree) :: members => do
    let key ← flawed key.text
    if key = "name" then
      if parts.name.isSome then throw (.mismatch (.repeatedField key))
      else
        let name ← stringOfTree tree
        readModelMembers outside { parts with name := some name } members
    else if key = "fields" then
      if parts.fields.isSome then throw (.mismatch (.repeatedField key))
      else
        let fields ← listOfTree fieldOfTree outside tree
        readModelMembers outside { parts with fields := some fields } members
    else if key = "requiredFieldNames" then
      if parts.required.isSome then throw (.mismatch (.repeatedField key))
      else
        let required ← stringsOfTree outside tree
        readModelMembers outside { parts with required := some required } members
    else if key = "ancestorNames" then
      if parts.ancestors.isSome then throw (.mismatch (.repeatedField key))
      else
        let ancestors ← stringsOfTree outside tree
        readModelMembers outside { parts with ancestors := some ancestors } members
    else
      flawed tree.pass
      readModelMembers outside parts members

/-- Read the items of a model: name, fields, required names and ancestors, from the first on. -/
def readModelItems (outside : Nat) (ending : Ending) :
    List Tree → Except ReadError ModelParts
  | [] => flawed (ending.after .none)
  | [name] => do
    let name ← stringOfTree name
    flawed (ending.after ⟨some name, none, none, none⟩)
  | [name, fields] => do
    let name ← stringOfTree name
    let fields ← listOfTree fieldOfTree outside fields
    flawed (ending.after ⟨some name, some fields, none, none⟩)
  | [name, fields, required] => do
    let name ← stringOfTree name
    let fields ← listOfTree fieldOfTree outside fields
    let required ← stringsOfTree outside required
    flawed (ending.after ⟨some name, some fields, some required, none⟩)
  | name :: fields :: required :: ancestors :: items => do
    let name ← stringOfTree name
    let fields ← listOfTree fieldOfTree outside fields
    let required ← stringsOfTree outside required
    let ancestors ← stringsOfTree outside ancestors
    endOfParts ending ⟨some name, some fields, some required, some ancestors⟩ items

/-- The model that a tree describes. -/
def modelOfTree (outside : Nat) : Tree → Except ReadError Model
  | .object members ending => do
    openInside outside
    let parts ← readModelMembers (outside + 1) .none members
    flawed (ending.after parts.assemble)
  | .array items ending => do
    openInside outside
    let parts ← readModelItems (outside + 1) ending items
    return parts.assemble
  | tree => .error (wrongTree .model tree)

/-! ## Graphs -/

/-- A key with the model under it. -/
def readEntry (outside : Nat) (member : Spelling × Tree) : Except ReadError (String × Model) := do
  let key ← flawed member.1.text
  let model ← modelOfTree outside member.2
  return (key, model)

/-- The graph that a tree describes; of two models under one key the later counts. -/
def graphOfTree (outside : Nat) : Tree → Except ReadError ModelGraph
  | .object members ending => do
    openInside outside
    let entries ← members.mapM (readEntry (outside + 1))
    flawed (ending.after (.ofList entries))
  | tree => .error (wrongTree .mapping tree)

/-! ## Texts -/

/-- Read a whole text; more text after the value is malformed. -/
def readWhole {Value : Type} (read : Tree → Except ReadError Value) (text : String) :
    Except ReadError Value := do
  let reading := Json.Reading.ofText text
  let value ← read reading.tree
  if reading.complete then return value else throw (.flaw .malformed)

/-- The graph as a text describes it, without any checks. -/
def ModelGraph.ofText (text : String) : Except ReadError ModelGraph :=
  readWhole (graphOfTree 0) text

/-- The type that a text describes. -/
def FieldType.ofText (text : String) : Except ReadError FieldType :=
  readWhole (typeOfTree 0) text

end ModelLineage
