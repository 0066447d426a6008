import ModelLineage.Log.Event

/-!
# Log lines

An event is logged on a line that names its severity and its origin.  Control
characters that could upset a terminal are spelled by their code.
-/

namespace ModelLineage

/-- How a character is shown in a log line. -/
def loggedChar (char : Char) : List Char :=
  if char = '\x1b' || char = '\x07' || char = '\x08' || char = '\x0c' || char = '\x7f' then
    let code := Nat.toDigits 16 char.toNat
    ['\\', 'x'] ++ List.replicate (2 - code.length) '0' ++ code
  else if 0x80 ≤ char.toNat ∧ char.toNat ≤ 0x9f then
    ['\\', 'u', '\x7b'] ++ Nat.toDigits 16 char.toNat ++ ['\x7d']
  else [char]

/-- The log line of an event. -/
def Event.line (event : Event) : String :=
  event.severity.label ++ " " ++ event.origin ++ ": " ++
    String.ofList (event.message.toList.flatMap loggedChar)

end ModelLineage
