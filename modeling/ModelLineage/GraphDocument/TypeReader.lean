import ModelLineage.GraphDocument.ReadError
import ModelLineage.Json.Contents

/-!
# Reading field types

A type is written as an object with a member `kind`, which may stand anywhere in
it, or as an array that begins with the kind.  To find the kind the whole type is
read as a value first; only the kind itself is looked at on the way.  The parts
of the type are then read from that value, and so are the types inside it, whose
kind may also be a number.
-/

namespace ModelLineage

open Json (Tree Spelling Ending Flaw)

/-- Let a flaw of the text count as an error of reading. -/
def flawed {Value : Type} (outcome : Except Flaw Value) : Except ReadError Value :=
  outcome.mapError .flaw

/-- Let a mismatch count as an error of reading. -/
def mismatched {Value : Type} (outcome : Except Mismatch Value) : Except ReadError Value :=
  outcome.mapError .mismatch

/--
The error for a tree of the wrong type.  A tree without containers is read
first, so its own flaws come before the mismatch.
-/
def wrongTree (wanted : Wanted) : Tree → ReadError
  | .null => .mismatch (.wrongType .null wanted)
  | .boolean value => .mismatch (.wrongType (.boolean value) wanted)
  | .numeral numeral =>
    match numeral.value? with
    | some value => .mismatch (.wrongType (.ofValue value) wanted)
    | none => .flaw .malformed
  | .cutNumeral => .flaw .ended
  | .text spelling =>
    match spelling.text with
    | .ok text => .mismatch (.wrongType (.string text) wanted)
    | .error flaw => .flaw flaw
  | .array _ _ => .mismatch (.wrongType .sequence wanted)
  | .object _ _ => .mismatch (.wrongType .mapping wanted)
  | .flaw found => .flaw found

/-! ## Parts that are read from values -/

/-- The kind of a word. -/
def kindOfWord (word : String) : Except Mismatch Kind :=
  match Kind.ofWord? word with
  | some kind => .ok kind
  | none => .error (.unknownWord word (Kind.all.map Kind.word))

/-- The kind of a value: a word or a number. -/
def kindOfValue : Json → Except Mismatch Kind
  | .string word => kindOfWord word
  | .integer (.ofNat number) =>
    match Kind.all[number]? with
    | some kind => .ok kind
    | none => .error (.wrongValue (.integer number) .kindNumber)
  | value => .error (.wrongType (.ofValue value) .kind)

/-- The primitive of a word. -/
def primitiveOfWord (word : String) : Except Mismatch Primitive :=
  match Primitive.ofWord? word with
  | some primitive => .ok primitive
  | none => .error (.unknownWord word (Primitive.spellings.map Prod.fst))

/-- The primitive of a value: a word, or an object whose only key is the word and holds nothing. -/
def primitiveOfValue : Json → Except Mismatch Primitive
  | .string word => primitiveOfWord word
  | .object [(word, content)] => do
    let primitive ← primitiveOfWord word
    match content with
    | .null => return primitive
    | .object [] => return primitive
    | other => throw (.wrongType (.ofValue other) .nothing)
  | .object _ => .error (.wrongValue .mapping .singleKey)
  | value => .error (.wrongType (.ofValue value) .primitive)

/-- The string of a value. -/
def stringOfValue : Json → Except Mismatch String
  | .string text => .ok text
  | value => .error (.wrongType (.ofValue value) .string)

/-- The truth value of a value. -/
def booleanOfValue : Json → Except Mismatch Bool
  | .boolean value => .ok value
  | value => .error (.wrongType (.ofValue value) .boolean)

/-- The parts of a type that were read so far. -/
structure TypeParts where
  primitive : Option Primitive
  model : Option String
  items : Option FieldType
  unique : Option Bool
  values : Option FieldType
  deriving Inhabited

namespace TypeParts

/-- Before any part is read. -/
def none : TypeParts := ⟨.none, .none, .none, .none, .none⟩

/-- Put the parts of a kind together; unless it says so, a list is not unique. -/
def assemble (parts : TypeParts) : Kind → Except Mismatch FieldType
  | .primitive =>
    match parts.primitive with
    | some primitive => .ok (.primitive primitive)
    | .none => .error (.missingField "type")
  | .reference =>
    match parts.model with
    | some model => .ok (.reference model)
    | .none => .error (.missingField "model")
  | .list =>
    match parts.items with
    | some items => .ok (.list items (parts.unique.getD false))
    | .none => .error (.missingField "items")
  | .map =>
    match parts.values with
    | some values => .ok (.map values)
    | .none => .error (.missingField "values")

end TypeParts

/-- A part that a type of some kind has. -/
inductive TypePart where
  | primitive
  | model
  | items
  | unique
  | values
  deriving DecidableEq

/-- The part that a key stands for in a type of a kind. -/
def Kind.part? (kind : Kind) (key : String) : Option TypePart :=
  match kind with
  | .primitive => if key = "type" then some .primitive else none
  | .reference => if key = "model" then some .model else none
  | .list =>
    if key = "items" then some .items else if key = "uniqueItems" then some .unique else none
  | .map => if key = "values" then some .values else none

/-- Whether a part was read already. -/
def TypeParts.has (parts : TypeParts) : TypePart → Bool
  | .primitive => parts.primitive.isSome
  | .model => parts.model.isSome
  | .items => parts.items.isSome
  | .unique => parts.unique.isSome
  | .values => parts.values.isSome

/-- The kind among the members of a value; all members are looked at. -/
def kindOfMembers (found : Option Kind) : List (String × Json) → Except Mismatch Kind
  | [] =>
    match found with
    | some kind => .ok kind
    | none => .error (.missingField "kind")
  | (key, value) :: members =>
    if key = "kind" then
      if found.isSome then .error (.repeatedField "kind")
      else do
        let kind ← kindOfValue value
        kindOfMembers (some kind) members
    else kindOfMembers found members

/-- Accept a type if the items that spelled it are all there are. -/
def ifLast (count : Nat) (left : List Json) (type : FieldType) : Except Mismatch FieldType :=
  if left.isEmpty then .ok type
  else .error (.wrongLength (count + left.length) (.partsInSequence count))

mutual

/-- The type that a value describes. -/
def typeOfValue : Json → Except Mismatch FieldType
  | .object members => do
    let kind ← kindOfMembers none members
    typeOfMembers kind .none members
  | .array [] => .error (.missingField "kind")
  | .array (first :: items) => do
    let kind ← kindOfValue first
    typeOfItems kind items
  | value => .error (.wrongType (.ofValue value) .fieldType)
termination_by structural value => value

/-- The type of a kind whose parts are among some members. -/
def typeOfMembers (kind : Kind) (parts : TypeParts) :
    List (String × Json) → Except Mismatch FieldType
  | [] => parts.assemble kind
  | (key, value) :: members =>
    match kind.part? key with
    | none => typeOfMembers kind parts members
    | some part =>
      if parts.has part then .error (.repeatedField key)
      else
        match part with
        | .primitive => do
          let primitive ← primitiveOfValue value
          typeOfMembers kind { parts with primitive := some primitive } members
        | .model => do
          let model ← stringOfValue value
          typeOfMembers kind { parts with model := some model } members
        | .items => do
          let items ← typeOfValue value
          typeOfMembers kind { parts with items := some items } members
        | .unique => do
          let unique ← booleanOfValue value
          typeOfMembers kind { parts with unique := some unique } members
        | .values => do
          let values ← typeOfValue value
          typeOfMembers kind { parts with values := some values } members
termination_by structural members => members

/-- The type of a kind whose parts are the items of an array, in their order. -/
def typeOfItems (kind : Kind) : List Json → Except Mismatch FieldType
  | [] => .error (.wrongLength 0 (.partsOf kind))
  | first :: items =>
    match kind with
    | .primitive => do
      let primitive ← primitiveOfValue first
      ifLast 1 items (.primitive primitive)
    | .reference => do
      let model ← stringOfValue first
      ifLast 1 items (.reference model)
    | .list => do
      let content ← typeOfValue first
      match items with
      | [] => return .list content false
      | second :: items => do
        let unique ← booleanOfValue second
        ifLast 2 items (.list content unique)
    | .map => do
      let content ← typeOfValue first
      ifLast 1 items (.map content)
termination_by structural items => items

end

/-! ## Types that are read from trees -/

/-- The kind that a tree names. -/
def kindOfTree : Tree → Except ReadError Kind
  | .text spelling => do
    let word ← flawed spelling.text
    mismatched (kindOfWord word)
  | tree => .error (wrongTree .kind tree)

/-- A container may be opened inside so many others. -/
def openInside (outside : Nat) : Except ReadError Unit :=
  if outside < Json.containerLimit then .ok () else .error (.flaw .malformed)

/--
The kind among the members of an object, and the values of the other members.
The kind is read where it stands, so what is wrong with it comes before what is
wrong with the text after it.
-/
def readTypeMembers (outside : Nat) (found : Option Kind) (values : List (String × Json)) :
    List (Spelling × Tree) → Except ReadError (Option Kind × List (String × Json))
  | [] => .ok (found, values.reverse)
  | (key, tree) :: members => do
    let key ← flawed key.text
    if key = "kind" then
      if found.isSome then throw (.mismatch (.repeatedField "kind"))
      else
        let kind ← kindOfTree tree
        readTypeMembers outside (some kind) values members
    else
      let value ← flawed (tree.value outside)
      readTypeMembers outside found ((key, value) :: values) members

/-- The type that a tree describes. -/
def typeOfTree (outside : Nat) : Tree → Except ReadError FieldType
  | .object members ending => do
    openInside outside
    let (kind, values) ← readTypeMembers (outside + 1) none [] members
    flawed (ending.after ())
    match kind with
    | none => throw (.mismatch (.missingField "kind"))
    | some kind => mismatched (typeOfMembers kind .none values)
  | .array [] ending => do
    openInside outside
    flawed (ending.after ())
    throw (.mismatch (.missingField "kind"))
  | .array (first :: items) ending => do
    openInside outside
    let kind ← kindOfTree first
    let values ← flawed (Json.valuesOfItems (outside + 1) items)
    flawed (ending.after ())
    mismatched (typeOfItems kind values)
  | tree => .error (wrongTree .fieldType tree)

end ModelLineage
