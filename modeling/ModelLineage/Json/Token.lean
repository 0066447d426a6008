import ModelLineage.Json.Numeral

/-!
# JSON tokens

A text is cut into tokens from left to right.  A token that the text breaks
inside is kept with its flaw and is the last one.  Strings keep their escapes as
they are spelled, since whether a lone surrogate is a flaw depends on who reads
the string.
-/

namespace ModelLineage

namespace Json

/-- A character of a string as it is spelled: itself, or four hexadecimal digits. -/
inductive TextUnit where
  | plain (char : Char)
  | code (value : Nat)
  deriving DecidableEq, Inhabited

/-- A string as it is spelled, up to the closing quote or to the flaw before it. -/
structure Spelling where
  units : List TextUnit
  flaw : Option Flaw
  deriving DecidableEq, Inhabited

/-- The token of a JSON text. -/
inductive Token where
  | openArray
  | closeArray
  | openObject
  | closeObject
  | comma
  | colon
  | null
  | boolean (value : Bool)
  | numeral (numeral : Numeral)
  | cutNumeral
  | text (spelling : Spelling)
  | flaw (flaw : Flaw)
  deriving DecidableEq, Inhabited

/-- The value of a hexadecimal digit. -/
def hexDigit? (char : Char) : Option Nat :=
  if '0' ≤ char ∧ char ≤ '9' then some (char.toNat - '0'.toNat)
  else if 'a' ≤ char ∧ char ≤ 'f' then some (char.toNat - 'a'.toNat + 10)
  else if 'A' ≤ char ∧ char ≤ 'F' then some (char.toNat - 'A'.toNat + 10)
  else none

/-- The value of four hexadecimal digits. -/
def hexCode? (first second third fourth : Char) : Option Nat := do
  let first ← hexDigit? first
  let second ← hexDigit? second
  let third ← hexDigit? third
  let fourth ← hexDigit? fourth
  return ((first * 16 + second) * 16 + third) * 16 + fourth

/-- The number of bytes of a text. -/
def byteLength (text : List Char) : Nat :=
  text.foldr (fun char count => char.utf8Size + count) 0

/-- The character that a backslash and a letter stand for. -/
def unescaped? (letter : Char) : Option Char :=
  if letter = '"' then some '"'
  else if letter = '\\' then some '\\'
  else if letter = '/' then some '/'
  else if letter = 'b' then some '\x08'
  else if letter = 'f' then some '\x0c'
  else if letter = 'n' then some '\n'
  else if letter = 'r' then some '\r'
  else if letter = 't' then some '\t'
  else none

/--
Read a string after its opening quote, `read` being its units so far, the last
one first.  Four hexadecimal digits are expected as four bytes, so a text with
fewer bytes left has ended, whatever they are.
-/
def readText (read : List TextUnit) : List Char → Spelling × List Char
  | [] => (⟨read.reverse, some .ended⟩, [])
  | '"' :: rest => (⟨read.reverse, none⟩, rest)
  | '\\' :: 'u' :: first :: second :: third :: fourth :: rest =>
    match hexCode? first second third fourth with
    | some value => readText (.code value :: read) rest
    | none => (⟨read.reverse, some .malformed⟩, [])
  | '\\' :: 'u' :: rest =>
    (⟨read.reverse, some (if byteLength rest < 4 then .ended else .malformed)⟩, [])
  | '\\' :: letter :: rest =>
    match unescaped? letter with
    | some char => readText (.plain char :: read) rest
    | none => (⟨read.reverse, some .malformed⟩, [])
  | ['\\'] => (⟨read.reverse, some .ended⟩, [])
  | char :: rest =>
    if char.toNat < 0x20 then (⟨read.reverse, some .malformed⟩, [])
    else readText (.plain char :: read) rest

theorem length_readText (read : List TextUnit) (text : List Char) :
    (readText read text).2.length ≤ text.length := by
  fun_induction readText read text <;> simp_all <;> omega

/-- Read the rest of a literal word. -/
def readLiteral (token : Token) : List Char → List Char → Token × List Char
  | [], text => (token, text)
  | _ :: _, [] => (.flaw .ended, [])
  | expected :: word, char :: text =>
    if char = expected then readLiteral token word text else (.flaw .malformed, [])

theorem length_readLiteral (token : Token) (word text : List Char) :
    (readLiteral token word text).2.length ≤ text.length := by
  fun_induction readLiteral token word text with
  | case1 => exact Nat.le_refl _
  | case2 => exact Nat.zero_le _
  | case3 _ _ _ ih => exact Nat.le_succ_of_le ih
  | case4 => exact Nat.zero_le _

/-- Read a numeral after its sign. -/
def readNumeral (negative : Bool) (text : List Char) : Token × List Char :=
  match Numeral.read negative text with
  | .ok (numeral, rest) => (.numeral numeral, rest)
  | .error .ended => (.cutNumeral, [])
  | .error .malformed => (.flaw .malformed, [])

theorem length_readNumeral (negative : Bool) (text : List Char) :
    (readNumeral negative text).2.length ≤ text.length - 1 := by
  unfold readNumeral
  split
  · rename_i taken
    have shorter := Numeral.length_read taken
    simp only
    omega
  · simp
  · simp

/-- The tokens of one character. -/
def punctuation : List (Char × Token) :=
  [('[', .openArray), (']', .closeArray), ('{', .openObject), ('}', .closeObject),
    (',', .comma), (':', .colon)]

/-- The literal words by their first character, each with its token and its other characters. -/
def literals : List (Char × Token × List Char) :=
  [('n', .null, ['u', 'l', 'l']), ('t', .boolean true, ['r', 'u', 'e']),
    ('f', .boolean false, ['a', 'l', 's', 'e'])]

/-- The token that begins with a character, and what follows it. -/
def readToken (char : Char) (rest : List Char) : Token × List Char :=
  match punctuation.lookup char with
  | some token => (token, rest)
  | none =>
    match literals.lookup char with
    | some (token, word) => readLiteral token word rest
    | none =>
      if char = '"' then (.text (readText [] rest).1, (readText [] rest).2)
      else if char = '-' then readNumeral true rest
      else if (digit? char).isSome then readNumeral false (char :: rest)
      else (.flaw .malformed, [])

theorem length_readToken (char : Char) (rest : List Char) :
    (readToken char rest).2.length ≤ rest.length := by
  have signed := length_readNumeral true rest
  have unsigned := length_readNumeral false (char :: rest)
  simp only [List.length_cons, Nat.add_sub_cancel] at unsigned
  unfold readToken
  split
  · exact Nat.le_refl _
  · split
    · exact length_readLiteral ..
    · split
      · exact length_readText ..
      · split
        · omega
        · split
          · exact unsigned
          · exact Nat.zero_le _

/-- The characters that may stand between tokens. -/
def isBlank (char : Char) : Bool :=
  char = ' ' || char = '\n' || char = '\r' || char = '\t'

/-- Cut a text into tokens, those already found given last one first. -/
def scanAfter (found : List Token) : List Char → List Token
  | [] => found.reverse
  | char :: rest =>
    if isBlank char then scanAfter found rest
    else scanAfter ((readToken char rest).1 :: found) (readToken char rest).2
termination_by text => text.length
decreasing_by
  · simp
  · have bound := length_readToken char rest
    simp only [List.length_cons]
    omega

/-- The tokens of a text, up to the first one with a flaw. -/
def scan (text : String) : List Token :=
  scanAfter [] text.toList

end Json

end ModelLineage
