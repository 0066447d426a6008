import ModelLineage.Log.Event

/-!
# Log thresholds

A threshold says how much is shown: nothing, or everything down to a severity.
It is spelled by a word in any case or by a number from zero to five.
-/

namespace ModelLineage

/-- How much is shown. -/
inductive Threshold where
  | off
  | downTo (severity : Severity)
  deriving DecidableEq, Inhabited

namespace Threshold

/-- The threshold that shows everything. -/
def everything : Threshold := .downTo .trace

/-- Whether a severity is shown. -/
def shows : Threshold → Severity → Bool
  | off, _ => false
  | downTo least, severity => severity.rank ≤ least.rank

/-- The thresholds by their numbers. -/
def all : List Threshold :=
  [off, downTo .error, downTo .warn, downTo .info, downTo .debug, downTo .trace]

/-- The words for thresholds, in lower case. -/
def words : List (String × Threshold) :=
  [("off", off), ("error", downTo .error), ("warn", downTo .warn), ("info", downTo .info),
    ("debug", downTo .debug), ("trace", downTo .trace)]

/-- The number that digits spell, with a plus sign before them or none. -/
def number? (text : List Char) : Option Nat :=
  let digits := match text with
    | '+' :: rest => rest
    | unsigned => unsigned
  if digits.isEmpty || !digits.all Char.isDigit then none
  else some (digits.foldl (fun value digit => 10 * value + (digit.toNat - '0'.toNat)) 0)

/-- The threshold that a text spells. -/
def ofText? (text : String) : Option Threshold :=
  match number? text.toList with
  | some number => all[number]?
  | none => words.lookup (String.ofList (text.toList.map Char.toLower))

end Threshold

end ModelLineage
