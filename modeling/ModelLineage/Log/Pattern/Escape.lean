import ModelLineage.Log.Pattern.Flags

/-!
# Escapes in patterns

Behind a backslash a mark stands for itself, and a letter for a control
character, a character by its code, a class of characters, or a place between
two characters.
-/

namespace ModelLineage

namespace ValuePattern

/-- What an escape stands for. -/
inductive Escaped where
  | char (char : Char)
  | characterClass
  | place
  deriving DecidableEq

/-- Whether a character behind a backslash stands for itself. -/
def isEscapable (char : Char) : Bool :=
  char.toNat < 0x80 && !char.isAlphanum && char ≠ '<' && char ≠ '>'

/-- The value of a hexadecimal digit. -/
def hexValue? (char : Char) : Option Nat :=
  if char.isDigit then some (char.toNat - '0'.toNat)
  else if 'a' ≤ char ∧ char ≤ 'f' then some (char.toNat - 'a'.toNat + 10)
  else if 'A' ≤ char ∧ char ≤ 'F' then some (char.toNat - 'A'.toNat + 10)
  else none

/-- Read a number of hexadecimal digits. -/
def hexCode? (flags : PatternFlags) (value : Nat) : Nat → List Char → Option (Nat × List Char)
  | 0, text => some (value, text)
  | count + 1, text =>
    match flags.skip text with
    | [] => none
    | digit :: rest => do
      let digit ← hexValue? digit
      hexCode? flags (16 * value + digit) count rest

/-- The character of a code, unless the code is half a character or none at all. -/
def charOfCode? (code : Nat) : Option Char :=
  if code < 0xd800 ∨ (0xdfff < code ∧ code < 0x110000) then some (Char.ofNat code) else none

/-- A character that is escaped by its code; without `unicode` two digits spell a byte. -/
def hexEscape? (flags : PatternFlags) (count : Nat) (text : List Char) :
    Option (Escaped × List Char) := do
  let (code, rest) ← hexCode? flags 0 count text
  let char ← charOfCode? code
  if count = 2 ∧ !flags.unicode ∧ 0x7f < code then none
  else some (.char char, flags.skip rest)

/-- The control characters that have an escape of their own. -/
def controls : List (Char × Char) :=
  [('a', '\x07'), ('f', '\x0c'), ('t', '\t'), ('n', '\n'), ('r', '\r'), ('v', '\x0b')]

/-- Read an escape after its backslash. -/
def escape? (flags : PatternFlags) : List Char → Option (Escaped × List Char)
  | [] => none
  | letter :: rest =>
    if letter = 'x' then hexEscape? flags 2 rest
    else if letter = 'u' then hexEscape? flags 4 rest
    else if letter = 'U' then hexEscape? flags 8 rest
    else if letter ∈ ['d', 's', 'w'] then
      if flags.unicode then none else some (.characterClass, rest)
    else if isEscapable letter then some (.char letter, rest)
    else if letter ∈ ['A', 'z'] then some (.place, rest)
    else if letter ∈ ['b', 'B', '<', '>'] then
      if flags.unicode then none else some (.place, rest)
    else (controls.lookup letter).map fun control => (.char control, rest)

end ValuePattern

end ModelLineage
