import ModelLineage.Log.Pattern.Escape
import ModelLineage.Log.Pattern.Row

/-!
# Classes in brackets

A class lists characters, ranges of them, and further classes; operators join
such lists from left to right.  It is read for its depth alone, with the classes
that are open around the one at hand on a stack.

Where letters of either case count as one, a class must not have a character in
it, as this needs the table of the letters; only classes that have none are left,
such as an operator with nothing on either side.  In a pattern about bytes a
class holds ASCII characters only, so that it can neither be negated nor hold a
negated one.
-/

namespace ModelLineage

namespace ValuePattern

/-- A class that is being read. -/
structure OpenBracket where
  /-- The members since the last operator. -/
  members : Row
  /-- The depth of what stands before that operator. -/
  operand : Option Nat
  deriving DecidableEq, Inhabited

namespace OpenBracket

/-- The depth of the content that has been read. -/
def depth (bracket : OpenBracket) : Nat :=
  match bracket.operand with
  | none => bracket.members.depth
  | some depth => max depth bracket.members.depth + 1

/-- Put a class inside, closed again, as a member. -/
def nest (bracket : OpenBracket) (inner : OpenBracket) : OpenBracket :=
  { bracket with members := bracket.members.push (inner.depth + 1) }

/-- Go on behind an operator. -/
def operate (bracket : OpenBracket) : OpenBracket :=
  ⟨∅, some bracket.depth⟩

/-- Put a number of members inside that are no classes in brackets, if the flags allow any. -/
def include? (bracket : OpenBracket) (flags : PatternFlags) (count : Nat) :
    Option OpenBracket :=
  if flags.needsCases && count ≠ 0 then none
  else some { bracket with members := bracket.members.pushLeaves count }

end OpenBracket

/-! ## Members -/

/-- The names of the classes of ASCII characters. -/
def asciiClasses : List String :=
  ["alnum", "alpha", "ascii", "blank", "cntrl", "digit", "graph", "lower", "print", "punct",
    "space", "upper", "word", "xdigit"]

/-- Read the name of a class of ASCII characters after the bracket; the flag tells a negation. -/
def asciiClass? : List Char → Option (Bool × List Char)
  | ':' :: text =>
    let negated := text.head? = some '^'
    let text := if negated then text.drop 1 else text
    match text.dropWhile (· ≠ ':') with
    | ':' :: ']' :: rest =>
      if String.ofList (text.takeWhile (· ≠ ':')) ∈ asciiClasses then some (negated, rest)
      else none
    | _ => none
  | _ => none

/-- Read a member: a character, or a class that has an escape. -/
def member? (flags : PatternFlags) (text : List Char) : Option (Escaped × List Char) := do
  let (found, rest) ← match text with
    | [] => none
    | '\\' :: rest => escape? flags rest
    | char :: rest => some (.char char, rest)
  match found with
  | .place => none
  | .characterClass => some (found, rest)
  | .char char => if !flags.unicode && 0x7f < char.toNat then none else some (found, rest)

/--
Read a member or a range of characters.  A minus is no sign of a range if a
closing bracket or another minus is to come behind it.
-/
def range? (flags : PatternFlags) (text : List Char) : Option (List Char) := do
  let (first, rest) ← member? flags text
  match flags.skip rest with
  | [] => none
  | '-' :: after =>
    if flags.peek? after = some ']' ∨ flags.peek? after = some '-' then some ('-' :: after)
    else
      let (last, rest) ← member? flags (flags.skip after)
      match first, last with
      | .char first, .char last => if first ≤ last then some rest else none
      | _, _ => none
  | rest => some rest

/-! ## Whole classes -/

/-- Pass over minus signs and count them. -/
def minusSigns (flags : PatternFlags) : List Char → Nat × List Char
  | '-' :: rest =>
    let (count, rest) := minusSigns flags (flags.skip rest)
    (count + 1, rest)
  | text => (0, text)
termination_by text => text.length
decreasing_by
  have shorter := flags.length_skip rest
  simp only [List.length_cons]
  omega

/--
Read the beginning of a class after its bracket.  The class may be negated; minus
signs that follow stand for themselves, and without any so does a closing
bracket.
-/
def openBracket? (flags : PatternFlags) (text : List Char) : Option (OpenBracket × List Char) := do
  let text := flags.skip text
  let negated := text.head? = some '^'
  if negated && !flags.unicode then none
  else
    let (count, text) := minusSigns flags (if negated then flags.skip (text.drop 1) else text)
    let closes := text.head? = some ']' ∧ count = 0
    let opened ← (⟨∅, none⟩ : OpenBracket).include? flags (if closes then 1 else count)
    some (opened, if closes then flags.skip (text.drop 1) else text)

/--
Read on up to the closing bracket of the outermost class, for its depth and the
rest.  The classes around the one at hand are listed from the inside.
-/
def brackets? (flags : PatternFlags) :
    Nat → List OpenBracket → OpenBracket → List Char → Option (Nat × List Char)
  | 0, _, _, _ => none
  | fuel + 1, around, bracket, text =>
    match flags.skip text with
    | [] => none
    | ']' :: rest =>
      match around with
      | [] => some (bracket.depth + 1, rest)
      | outer :: around => brackets? flags fuel around (outer.nest bracket) rest
    | '[' :: rest =>
      match asciiClass? rest with
      | some (negated, rest) => do
        let bracket ← bracket.include? flags 1
        if negated && !flags.unicode then none else brackets? flags fuel around bracket rest
      | none => do
        let (inner, rest) ← openBracket? flags rest
        brackets? flags fuel (bracket :: around) inner rest
    | '&' :: '&' :: rest => brackets? flags fuel around bracket.operate rest
    | '-' :: '-' :: rest => brackets? flags fuel around bracket.operate rest
    | '~' :: '~' :: rest => brackets? flags fuel around bracket.operate rest
    | text => do
      let rest ← range? flags text
      let bracket ← bracket.include? flags 1
      brackets? flags fuel around bracket rest

/-- Read a class after its bracket, for its depth and the rest. -/
def bracketed? (flags : PatternFlags) (text : List Char) : Option (Nat × List Char) := do
  let (opened, rest) ← openBracket? flags text
  brackets? flags (rest.length + 1) [] opened rest

end ValuePattern

end ModelLineage
