import ModelLineage.Json.Tree

/-!
# The contents of a tree

A tree can be read as a value, or merely passed over.  Reading it wants every
string to spell characters, every number to be in range and no more than 127
containers open at a time.  Passing it over wants none of this, only that the
tree is whole.
-/

namespace ModelLineage

namespace Json

/-- How many containers may be open at a time where values are read. -/
def containerLimit : Nat := 127

/-- The first of the codes that stand for half a character and must come before the other half. -/
def isLeadingHalf (code : Nat) : Bool :=
  0xd800 ≤ code && code < 0xdc00

/-- The codes that stand for the second half of a character. -/
def isTrailingHalf (code : Nat) : Bool :=
  0xdc00 ≤ code && code < 0xe000

/-- The character of two halves. -/
def joinHalves (leading trailing : Nat) : Char :=
  Char.ofNat (0x10000 + (leading - 0xd800) * 0x400 + (trailing - 0xdc00))

namespace Spelling

/--
The characters that units spell, `read` being those before them, the last one
first.  Half a character that is not followed by the other half is malformed,
unless the text ends right there.
-/
def readUnits (ending : Option Flaw) (read : List Char) :
    List TextUnit → Except Flaw (List Char)
  | [] =>
    match ending with
    | none => .ok read.reverse
    | some flaw => .error flaw
  | .plain char :: units => readUnits ending (char :: read) units
  | [.code code] =>
    if isTrailingHalf code then .error .malformed
    else if isLeadingHalf code then .error (if ending = some .ended then .ended else .malformed)
    else readUnits ending (Char.ofNat code :: read) []
  | .code code :: .plain char :: units =>
    if isTrailingHalf code || isLeadingHalf code then .error .malformed
    else readUnits ending (Char.ofNat code :: read) (.plain char :: units)
  | .code code :: .code next :: units =>
    if isTrailingHalf code then .error .malformed
    else if isLeadingHalf code then
      if isTrailingHalf next then readUnits ending (joinHalves code next :: read) units
      else .error .malformed
    else readUnits ending (Char.ofNat code :: read) (.code next :: units)

/-- The string that is spelled. -/
def text (spelling : Spelling) : Except Flaw String :=
  (readUnits spelling.flaw [] spelling.units).map String.ofList

end Spelling

/-- Go on after the last element that a container holds, unless it is broken. -/
def Ending.after {Value : Type} (ending : Ending) (value : Value) : Except Flaw Value :=
  match ending with
  | .closed => .ok value
  | .broken flaw => .error flaw

mutual

/-- The value of a tree that stands inside a number of open containers. -/
def Tree.value (outside : Nat) : Tree → Except Flaw Json
  | .null => .ok .null
  | .boolean value => .ok (.boolean value)
  | .numeral numeral =>
    match numeral.value? with
    | some value => .ok value
    | none => .error .malformed
  | .cutNumeral => .error .ended
  | .text spelling => spelling.text.map .string
  | .flaw found => .error found
  | .array items ending =>
    if outside < containerLimit then do
      let values ← valuesOfItems (outside + 1) items
      ending.after (.array values)
    else .error .malformed
  | .object members ending =>
    if outside < containerLimit then do
      let values ← valuesOfMembers (outside + 1) members
      ending.after (.object values)
    else .error .malformed
termination_by structural tree => tree

/-- The values of the items of an array. -/
def valuesOfItems (outside : Nat) : List Tree → Except Flaw (List Json)
  | [] => .ok []
  | item :: items => do
    let value ← item.value outside
    let values ← valuesOfItems outside items
    return value :: values
termination_by structural items => items

/-- The keys and values of the members of an object. -/
def valuesOfMembers (outside : Nat) :
    List (Spelling × Tree) → Except Flaw (List (String × Json))
  | [] => .ok []
  | (key, tree) :: members => do
    let key ← key.text
    let value ← tree.value outside
    let values ← valuesOfMembers outside members
    return (key, value) :: values
termination_by structural members => members

end

/-- Pass over a string. -/
def Spelling.pass (spelling : Spelling) : Except Flaw Unit :=
  match spelling.flaw with
  | none => .ok ()
  | some flaw => .error flaw

mutual

/-- Pass over a tree; a numeral that the text breaks off in counts as malformed. -/
def Tree.pass : Tree → Except Flaw Unit
  | .null => .ok ()
  | .boolean _ => .ok ()
  | .numeral _ => .ok ()
  | .cutNumeral => .error .malformed
  | .text spelling => spelling.pass
  | .flaw found => .error found
  | .array items ending => do
    passItems items
    ending.after ()
  | .object members ending => do
    passMembers members
    ending.after ()
termination_by structural tree => tree

/-- Pass over the items of an array. -/
def passItems : List Tree → Except Flaw Unit
  | [] => .ok ()
  | item :: items => do
    item.pass
    passItems items
termination_by structural items => items

/-- Pass over the members of an object. -/
def passMembers : List (Spelling × Tree) → Except Flaw Unit
  | [] => .ok ()
  | (key, tree) :: members => do
    key.pass
    tree.pass
    passMembers members
termination_by structural members => members

end

end Json

end ModelLineage
