import ModelLineage.Log.Pattern.Bracket
import ModelLineage.Log.Pattern.Group

/-!
# Patterns for the values of fields

A condition on a log field may ask for a value by a regular expression.  There
are no such values here, so it only matters which texts are patterns at all.

A pattern is a row of parts, or several such rows with bars between them; a group
holds the same again.  Its parts may be nested up to a limit.

A pattern here has no closing brace, as that would end the condition it stands
in.  What needs one, such as a counted repetition, is therefore never a pattern.
-/

namespace ModelLineage

namespace ValuePattern

/-- How deeply the parts of a pattern may be nested. -/
def depthLimit : Nat := 250

/-- A group that is being read, or the whole pattern. -/
structure OpenGroup where
  flags : PatternFlags
  /-- The rows before the last bar. -/
  rows : Row
  /-- The row since then. -/
  parts : Row
  deriving DecidableEq, Inhabited

namespace OpenGroup

/-- Before the first part. -/
def ofFlags (flags : PatternFlags) : OpenGroup :=
  ⟨flags, ∅, ∅⟩

/-- Go on behind a bar. -/
def bar (group : OpenGroup) : OpenGroup :=
  { group with rows := group.rows.push group.parts.depth, parts := ∅ }

/-- Put a part of some depth at the end. -/
def push (group : OpenGroup) (depth : Nat) : OpenGroup :=
  { group with parts := group.parts.push depth }

/-- The depth of the content. -/
def depth (group : OpenGroup) : Nat :=
  (group.rows.push group.parts.depth).depth

end OpenGroup

/-- How far a pattern is read. -/
structure Progress where
  group : OpenGroup
  /-- The groups around the one at hand, from the inside. -/
  around : List OpenGroup
  /-- The names that groups have. -/
  names : List String
  /-- Whether a part stands before that can be repeated. -/
  repeatable : Bool
  deriving DecidableEq, Inhabited

namespace Progress

/-- Before the first part. -/
def initial : Progress := ⟨.ofFlags .initial, [], [], false⟩

/-- Put a part of some depth at the end. -/
def push (progress : Progress) (depth : Nat) : Progress :=
  { progress with group := progress.group.push depth, repeatable := true }

/-- Repeat the last part, if there is one. -/
def again? (progress : Progress) : Option Progress :=
  if progress.repeatable then
    some { progress with
      group := { progress.group with parts := progress.group.parts.wrapLast } }
  else none

/-- Go on behind a bar. -/
def bar (progress : Progress) : Progress :=
  { progress with group := progress.group.bar, repeatable := false }

/-- Begin a group, or change the flags of the one at hand; no two groups have one name. -/
def begin? (progress : Progress) : GroupOpening → Option Progress
  | .flags flags =>
    some { progress with group := { progress.group.push 0 with flags }, repeatable := false }
  | .group flags name =>
    if progress.names.any (name = some ·) then none
    else
      some ⟨.ofFlags flags, progress.group :: progress.around,
        name.toList ++ progress.names, false⟩

/-- End the group at hand. -/
def end? (progress : Progress) : Option Progress :=
  match progress.around with
  | [] => none
  | outer :: around =>
    some { progress with
      group := outer.push (progress.group.depth + 1), around, repeatable := true }

/-- Whether a pattern may end here. -/
def mayEnd (progress : Progress) : Bool :=
  progress.around.isEmpty && progress.group.depth ≤ depthLimit

end Progress

/-- The marks that repeat a part. -/
def repetitions : List Char := ['?', '*', '+']

/-- Read a part that holds no others; it takes a character or more. -/
def leaf? (flags : PatternFlags) : List Char → Option (List Char)
  | [] => none
  | '\\' :: rest => do
    let (found, rest) ← escape? flags rest
    match found with
    | .char _ => if flags.needsCases then none else some rest
    | _ => some rest
  | '.' :: rest => if flags.unicode then some rest else none
  | '^' :: rest => some rest
  | '$' :: rest => some rest
  | '\x7b' :: _ => none
  | _ :: rest => if flags.needsCases then none else some rest

/-- Read a pattern on from some point; every step takes a character or more. -/
def readOn : Nat → Progress → List Char → Bool
  | 0, _, _ => false
  | fuel + 1, progress, text =>
    let flags := progress.group.flags
    match flags.skip text with
    | [] => progress.mayEnd
    | '(' :: rest =>
      match groupOpening? flags rest with
      | some (opening, rest) =>
        match progress.begin? opening with
        | some progress => readOn fuel progress rest
        | none => false
      | none => false
    | ')' :: rest =>
      match progress.end? with
      | some progress => readOn fuel progress rest
      | none => false
    | '|' :: rest => readOn fuel progress.bar rest
    | '[' :: rest =>
      match bracketed? flags rest with
      | some (depth, rest) => readOn fuel (progress.push depth) rest
      | none => false
    | char :: rest =>
      if char ∈ repetitions then
        match progress.again? with
        | some progress =>
          readOn fuel progress (if rest.head? = some '?' then rest.drop 1 else rest)
        | none => false
      else
        match leaf? flags (char :: rest) with
        | some rest => readOn fuel (progress.push 0) rest
        | none => false

end ValuePattern

/-- Whether a text is a pattern for values. -/
def isValuePattern (text : String) : Bool :=
  ValuePattern.readOn (text.length + 1) .initial text.toList

end ModelLineage
