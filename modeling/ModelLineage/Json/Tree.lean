import ModelLineage.Json.Token

/-!
# Trees of JSON text

A tree is what a text spells, up to the first place where it stops being JSON.
A text that breaks off inside a container leaves that container open: its
items are those that were read, and its ending is the flaw.  A value that is
missing where one must stand is itself a flaw.  Since nothing follows a flaw in
a tree, a reader that goes through a tree in the order of the text meets first
what comes first in the text.

Trees are built token by token with the open containers on a stack, so the
nesting of a text is no limit here.
-/

namespace ModelLineage

namespace Json

/-- How a container ends: with its bracket, or with a flaw before it. -/
inductive Ending where
  | closed
  | broken (flaw : Flaw)
  deriving DecidableEq, Inhabited

/-- What a text spells. -/
inductive Tree where
  | null
  | boolean (value : Bool)
  | numeral (numeral : Numeral)
  | cutNumeral
  | text (spelling : Spelling)
  | array (items : List Tree) (ending : Ending)
  | object (members : List (Spelling × Tree)) (ending : Ending)
  | flaw (flaw : Flaw)
  deriving Inhabited

/-- A container that is still open, with what it holds so far, the last one first. -/
inductive OpenContainer where
  | array (items : List Tree)
  | object (members : List (Spelling × Tree))
  | member (members : List (Spelling × Tree)) (key : Spelling)
  deriving Inhabited

namespace OpenContainer

/-- Put a value in its place; an object has a place for one only behind a key. -/
def fill (container : OpenContainer) (value : Tree) : OpenContainer :=
  match container with
  | array items => array (value :: items)
  | object members => object members
  | member members key => object ((key, value) :: members)

/-- The container as a tree; a key without its value keeps a malformed one. -/
def finish (container : OpenContainer) (ending : Ending) : Tree :=
  match container with
  | array items => .array items.reverse ending
  | object members => .object members.reverse ending
  | member members key => .object ((key, .flaw .malformed) :: members).reverse ending

end OpenContainer

/-- What the next token must be. -/
inductive Expectation where
  /-- A value, after a comma or a colon or at the beginning. -/
  | value
  /-- A value or the end of an array. -/
  | firstItem
  /-- A key or the end of an object. -/
  | firstKey
  /-- A key, after a comma. -/
  | key
  /-- The colon after a key. -/
  | colon
  /-- A comma or the end of the container. -/
  | separator
  deriving DecidableEq, Inhabited

/-- The tree of a token that is a whole value or a flawed one. -/
def Token.leaf? : Token → Option Tree
  | .null => some .null
  | .boolean value => some (.boolean value)
  | .numeral read => some (.numeral read)
  | .cutNumeral => some .cutNumeral
  | .text spelling => some (.text spelling)
  | .flaw found => some (.flaw found)
  | _ => none

/-- Close the open containers, the innermost first, all of them broken by a flaw. -/
def breakOff (flaw : Flaw) (inner : Tree) : List OpenContainer → Tree
  | [] => inner
  | container :: outer => breakOff flaw ((container.fill inner).finish (.broken flaw)) outer

/-- The tree of a text that breaks off at a place where something is expected. -/
def breakAt (flaw : Flaw) : Expectation → List OpenContainer → Tree
  | .value, stack => breakOff flaw (.flaw flaw) stack
  | .colon, stack => breakOff flaw (.flaw flaw) stack
  | _, container :: outer => breakOff flaw (container.finish (.broken flaw)) outer
  | _, [] => .flaw flaw

/-- A tree, and whether the text ends with it. -/
structure Reading where
  tree : Tree
  complete : Bool
  deriving Inhabited

/-- What one token leads to. -/
inductive Progress where
  | going (expectation : Expectation) (stack : List OpenContainer)
  | whole (value : Tree)
  | broken

/-- Go on after a whole value. -/
def afterValue (value : Tree) : List OpenContainer → Progress
  | [] => .whole value
  | container :: outer => .going .separator (container.fill value :: outer)

/-- Take a token where a value must stand. -/
def takeValue (token : Token) (stack : List OpenContainer) : Progress :=
  match token with
  | .openArray => .going .firstItem (.array [] :: stack)
  | .openObject => .going .firstKey (.object [] :: stack)
  | token =>
    match token.leaf? with
    | some value => afterValue value stack
    | none => .broken

/-- Take one token. -/
def take (token : Token) : Expectation → List OpenContainer → Progress
  | .value, stack => takeValue token stack
  | .firstItem, stack =>
    match token, stack with
    | .closeArray, container :: outer => afterValue (container.finish .closed) outer
    | token, stack => takeValue token stack
  | .firstKey, stack =>
    match token, stack with
    | .closeObject, container :: outer => afterValue (container.finish .closed) outer
    | .text key, .object members :: outer => .going .colon (.member members key :: outer)
    | _, _ => .broken
  | .key, stack =>
    match token, stack with
    | .text key, .object members :: outer => .going .colon (.member members key :: outer)
    | _, _ => .broken
  | .colon, stack =>
    match token with
    | .colon => .going .value stack
    | _ => .broken
  | .separator, stack =>
    match token, stack with
    | .comma, .array _ :: _ => .going .value stack
    | .comma, _ => .going .key stack
    | .closeArray, .array items :: outer =>
      afterValue ((OpenContainer.array items).finish .closed) outer
    | .closeObject, .object members :: outer =>
      afterValue ((OpenContainer.object members).finish .closed) outer
    | _, _ => .broken

/-- Build a tree from tokens. -/
def build : Expectation → List OpenContainer → List Token → Reading
  | expectation, stack, [] => ⟨breakAt .ended expectation stack, false⟩
  | expectation, stack, token :: tokens =>
    match take token expectation stack with
    | .going expectation stack => build expectation stack tokens
    | .whole value => ⟨value, tokens.isEmpty⟩
    | .broken => ⟨breakAt .malformed expectation stack, false⟩

/-- The tree of a text, and whether the text ends with it. -/
def Reading.ofText (text : String) : Reading :=
  build .value [] (scan text)

end Json

end ModelLineage
