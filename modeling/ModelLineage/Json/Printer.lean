import ModelLineage.Json.Value
import ModelLineage.Number.Shortest

/-!
# Writing JSON

A value is written on one line, or spread over lines with two blanks a level.
Both forms differ only in what stands between the tokens.  In a string the quote,
the backslash and the control characters are escaped, everything else stands as
it is.
-/

namespace ModelLineage

namespace Json

/-- A digit of a number below sixteen. -/
def hexDigit (value : Nat) : Char :=
  Nat.digitChar value

/-- How a character is written inside a string. -/
def escaped (char : Char) : List Char :=
  if char = '"' then ['\\', '"']
  else if char = '\\' then ['\\', '\\']
  else if char = '\x08' then ['\\', 'b']
  else if char = '\x0c' then ['\\', 'f']
  else if char = '\n' then ['\\', 'n']
  else if char = '\r' then ['\\', 'r']
  else if char = '\t' then ['\\', 't']
  else if char.toNat < 0x20 then
    ['\\', 'u', '0', '0', hexDigit (char.toNat / 16), hexDigit (char.toNat % 16)]
  else [char]

/-- A string between quotes. -/
def quoted (text : String) : List Char :=
  '"' :: text.toList.flatMap escaped ++ ['"']

/-- An integer in decimal digits. -/
def integerText : Int → List Char
  | .ofNat value => Nat.toDigits 10 value
  | .negSucc value => '-' :: Nat.toDigits 10 (value + 1)

/-- What stands between the tokens of a written value. -/
structure Layout where
  /-- Stands before an item, a member or a closing bracket at a level. -/
  newline : Nat → List Char
  /-- Stands between a colon and the value after it. -/
  gap : List Char

namespace Layout

/-- Nothing between the tokens. -/
def compact : Layout := ⟨fun _ => [], []⟩

/-- Every item and member on a line of its own, two blanks further in than its container. -/
def spread : Layout := ⟨fun level => '\n' :: List.replicate (2 * level) ' ', [' ']⟩

end Layout

mutual

/-- A value written at a level, in front of the text that follows it. -/
def writeBefore (layout : Layout) (level : Nat) : Json → List Char → List Char
  | null, rest => 'n' :: 'u' :: 'l' :: 'l' :: rest
  | boolean true, rest => 't' :: 'r' :: 'u' :: 'e' :: rest
  | boolean false, rest => 'f' :: 'a' :: 'l' :: 's' :: 'e' :: rest
  | integer value, rest => integerText value ++ rest
  | real value, rest => value.text.toList ++ rest
  | string text, rest => quoted text ++ rest
  | array items, rest => '[' :: writeItems layout level true items rest
  | object members, rest => '{' :: writeMembers layout level true members rest
termination_by structural value => value

/-- The items of an array from some point on, with the closing bracket. -/
def writeItems (layout : Layout) (level : Nat) (isFirst : Bool) :
    List Json → List Char → List Char
  | [], rest => (if isFirst then [] else layout.newline level) ++ ']' :: rest
  | item :: items, rest =>
    (if isFirst then [] else [',']) ++ (layout.newline (level + 1) ++
      writeBefore layout (level + 1) item (writeItems layout level false items rest))
termination_by structural items => items

/-- The members of an object from some point on, with the closing brace. -/
def writeMembers (layout : Layout) (level : Nat) (isFirst : Bool) :
    List (String × Json) → List Char → List Char
  | [], rest => (if isFirst then [] else layout.newline level) ++ '}' :: rest
  | (key, value) :: members, rest =>
    (if isFirst then [] else [',']) ++ (layout.newline (level + 1) ++
      (quoted key ++ ':' :: (layout.gap ++
        writeBefore layout (level + 1) value (writeMembers layout level false members rest))))
termination_by structural members => members

end

/-- A value written at a level. -/
def write (layout : Layout) (level : Nat) (value : Json) : List Char :=
  value.writeBefore layout level []

mutual

theorem writeBefore_append (layout : Layout) (level : Nat) :
    ∀ (value : Json) (first second : List Char),
      writeBefore layout level value (first ++ second) =
        writeBefore layout level value first ++ second
  | null, _, _ => rfl
  | boolean true, _, _ => rfl
  | boolean false, _, _ => rfl
  | integer _, _, _ => by simp [writeBefore]
  | real _, _, _ => by simp [writeBefore]
  | string _, _, _ => by simp [writeBefore]
  | array items, first, second => by
    simp [writeBefore, writeItems_append layout level true items first second]
  | object members, first, second => by
    simp [writeBefore, writeMembers_append layout level true members first second]

theorem writeItems_append (layout : Layout) (level : Nat) (isFirst : Bool) :
    ∀ (items : List Json) (first second : List Char),
      writeItems layout level isFirst items (first ++ second) =
        writeItems layout level isFirst items first ++ second
  | [], _, _ => by simp [writeItems]
  | item :: items, first, second => by
    simp [writeItems, writeItems_append layout level false items first second,
      writeBefore_append layout (level + 1) item]

theorem writeMembers_append (layout : Layout) (level : Nat) (isFirst : Bool) :
    ∀ (members : List (String × Json)) (first second : List Char),
      writeMembers layout level isFirst members (first ++ second) =
        writeMembers layout level isFirst members first ++ second
  | [], _, _ => by simp [writeMembers]
  | (key, value) :: members, first, second => by
    simp [writeMembers, writeMembers_append layout level false members first second,
      writeBefore_append layout (level + 1) value]

end

/-- What follows a value has no part in how the value is written. -/
theorem writeBefore_eq (layout : Layout) (level : Nat) (value : Json) (rest : List Char) :
    value.writeBefore layout level rest = value.write layout level ++ rest :=
  writeBefore_append layout level value [] rest

/-- The text of a value on one line. -/
def compactText (value : Json) : String :=
  String.ofList (value.write .compact 0)

/-- The text of a value spread over lines. -/
def spreadText (value : Json) : String :=
  String.ofList (value.write .spread 0)

end Json

end ModelLineage
