import ModelLineage.Log.Pattern.Flags
import ModelLineage.Text.Alphanumeric

/-!
# Groups in patterns

A group may have a name or flags of its own.  What looks like a group and holds
nothing but flags changes them for the rest of the group around it.
-/

namespace ModelLineage

namespace ValuePattern

/-- The letters of flags. -/
def flagLetters : List Char := ['i', 'm', 's', 'U', 'u', 'R', 'x']

/-- Whether some characters spell flags: each letter once, one minus at most and not at the end. -/
def areFlags (letters : List Char) : Bool :=
  letters.all (fun letter => letter = '-' || letter ∈ flagLetters) &&
    decide letters.Nodup && letters.getLast? ≠ some '-'

/-- Whether some characters name a group: it begins with a letter or an underscore. -/
def isGroupName : List Char → Bool
  | [] => false
  | first :: rest =>
    (first = '_' || isAlphabetic first) &&
      rest.all fun char => isAlphanumeric char || char ∈ ['_', '.', '[', ']']

/-- What stands after an opening parenthesis. -/
inductive GroupOpening where
  | group (flags : PatternFlags) (name : Option String)
  | flags (flags : PatternFlags)
  deriving DecidableEq

/-- Read the name of a group up to its closing angle bracket. -/
def groupName? (flags : PatternFlags) (text : List Char) : Option (GroupOpening × List Char) :=
  let name := text.takeWhile (· ≠ '>')
  match text.dropWhile (· ≠ '>') with
  | _ :: rest =>
    if isGroupName name then some (.group flags (some (String.ofList name)), rest) else none
  | [] => none

/-- Read what stands after an opening parenthesis. -/
def groupOpening? (flags : PatternFlags) (text : List Char) :
    Option (GroupOpening × List Char) :=
  match flags.skip text with
  | '?' :: 'P' :: '<' :: rest => groupName? flags rest
  | '?' :: '<' :: rest => groupName? flags rest
  | '?' :: rest =>
    let letters := rest.takeWhile fun char => char ≠ ':' && char ≠ ')'
    let changed := flags.setAll true letters
    match rest.dropWhile fun char => char ≠ ':' && char ≠ ')' with
    | ':' :: rest => if areFlags letters then some (.group changed none, rest) else none
    | ')' :: rest =>
      if areFlags letters && !letters.isEmpty then some (.flags changed, rest) else none
    | _ => none
  | rest => some (.group flags none, rest)

end ValuePattern

end ModelLineage
