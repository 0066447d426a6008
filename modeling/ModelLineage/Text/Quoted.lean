import ModelLineage.Text.Invisible

/-!
# Quoted text in messages

A message shows a text between quotes, so that its ends and its invisible
characters can be seen: the quote, the backslash and a few control characters
have short escapes, other invisible characters are spelled by their code.
-/

namespace ModelLineage

/-- How a character is shown in quoted text. -/
def shownChar (char : Char) : List Char :=
  if char = '"' then ['\\', '"']
  else if char = '\\' then ['\\', '\\']
  else if char = '\n' then ['\\', 'n']
  else if char = '\r' then ['\\', 'r']
  else if char = '\t' then ['\\', 't']
  else if char = '\x00' then ['\\', '0']
  else if ' ' ≤ char ∧ char ≤ '~' then [char]
  else if isInvisible char then
    ['\\', 'u', '\x7b'] ++ Nat.toDigits 16 char.toNat ++ ['\x7d']
  else [char]

/-- A text as a message shows it. -/
def shownText (text : String) : String :=
  String.ofList ('"' :: text.toList.flatMap shownChar ++ ['"'])

end ModelLineage
