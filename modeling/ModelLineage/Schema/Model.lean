import ModelLineage.Names.NameSet
import ModelLineage.Schema.FieldType

/-!
# Models

A model has fields in the order of declaration, the set of its required field
names and the names of its ancestors.  Each field also carries a required flag
of its own.  Nothing here forces the flags and the set to agree, nor the field
names to be distinct: `Model.reconcileRequired` settles the flags, and loading a
document checks the names.
-/

namespace ModelLineage

/-- A field of a model. -/
structure Field where
  name : String
  type : FieldType
  required : Bool
  deriving DecidableEq, Inhabited

/-- A model with its own fields and the names of the models it composes. -/
structure Model where
  name : String
  fields : List Field
  required : NameSet
  ancestors : List String
  deriving DecidableEq, Inhabited

namespace Model

/-- A model without fields or ancestors. -/
def named (name : String) : Model :=
  ⟨name, [], ∅, []⟩

/-- Declare a field, counting it as required if its flag says so. -/
def declare (model : Model) (field : Field) : Model :=
  { model with
    fields := model.fields ++ [field]
    required := if field.required then model.required.insert field.name else model.required }

/-- Append a field without looking at its flag. -/
def append (model : Model) (field : Field) : Model :=
  { model with fields := model.fields ++ [field] }

/-- Count a name as required, whether or not a field bears it. -/
def demand (model : Model) (name : String) : Model :=
  { model with required := model.required.insert name }

/-- Append an ancestor. -/
def inheriting (model : Model) (ancestor : String) : Model :=
  { model with ancestors := model.ancestors ++ [ancestor] }

/-- The first field of a name. -/
def field? (model : Model) (name : String) : Option Field :=
  model.fields.find? fun field => field.name = name

/-- Whether some field has a name. -/
def declares (model : Model) (name : String) : Bool :=
  (model.field? name).isSome

/-- The field names in order of declaration. -/
def fieldNames (model : Model) : List String :=
  model.fields.map Field.name

/--
Go through the fields with the set of names known to be required: a field whose
name is known becomes flagged, and a flagged field makes its name known to the
fields after it.
-/
def reconcileFields (known : NameSet) : List Field → List Field × NameSet
  | [] => ([], known)
  | field :: later =>
    if field.name ∈ known then
      let (fields, known) := reconcileFields known later
      ({ field with required := true } :: fields, known)
    else
      let (fields, known) :=
        reconcileFields (if field.required then known.insert field.name else known) later
      (field :: fields, known)

/-- Let flags and required set agree by counting as required what either of them says. -/
def reconcileRequired (model : Model) : Model :=
  let (fields, required) := reconcileFields model.required model.fields
  { model with fields, required }

end Model

end ModelLineage
