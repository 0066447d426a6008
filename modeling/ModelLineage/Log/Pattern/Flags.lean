import ModelLineage.Text.Blank

/-!
# The flags of a pattern

A pattern is read from left to right, and the flags in force where a part begins
decide how the part is read.  With `extended`, blanks and comments between the
parts are passed over.  With `unicode`, which is in force unless a group takes it
away, the pattern is about characters, and what depends on tables of them is
missing: classes by property, word boundaries and letters of either case.
Without it the pattern is about bytes, and no part may match anything but whole
characters.
-/

namespace ModelLineage

/-- How a part of a pattern is read. -/
structure PatternFlags where
  extended : Bool
  insensitive : Bool
  unicode : Bool
  deriving DecidableEq, Inhabited

namespace PatternFlags

/-- The flags in force where a pattern begins. -/
def initial : PatternFlags := ⟨false, false, true⟩

/-- Whether a character, alone or in a class, needs a table of the letters of either case. -/
def needsCases (flags : PatternFlags) : Bool :=
  flags.insensitive && flags.unicode

/-- Set a flag that matters here by its letter. -/
def set (flags : PatternFlags) (letter : Char) (value : Bool) : PatternFlags :=
  if letter = 'x' then { flags with extended := value }
  else if letter = 'i' then { flags with insensitive := value }
  else if letter = 'u' then { flags with unicode := value }
  else flags

/-- Set flags one after the other; those behind a minus are taken away. -/
def setAll (flags : PatternFlags) (value : Bool) : List Char → PatternFlags
  | [] => flags
  | letter :: letters =>
    if letter = '-' then flags.setAll false letters
    else (flags.set letter value).setAll value letters

/-! ## Blanks between the parts -/

/-- Pass over blanks and comments; a comment ends with its line. -/
def passBlanks (inComment : Bool) : List Char → List Char
  | [] => []
  | char :: rest =>
    if inComment then passBlanks (char ≠ '\n') rest
    else if isBlank char then passBlanks false rest
    else if char = '#' then passBlanks true rest
    else char :: rest

/-- Go on to the next part. -/
def skip (flags : PatternFlags) (text : List Char) : List Char :=
  if flags.extended then passBlanks false text else text

/--
The character to come, without going on to it.  Blanks are passed over, but of a
comment only its mark is: the first character of its words is taken for the one
to come.
-/
def peek? (flags : PatternFlags) (text : List Char) : Option Char :=
  if flags.extended then
    match text.dropWhile isBlank with
    | '#' :: comment => (comment.dropWhile isBlank).head?
    | rest => rest.head?
  else text.head?

theorem length_passBlanks (inComment : Bool) (text : List Char) :
    (passBlanks inComment text).length ≤ text.length := by
  fun_induction passBlanks inComment text <;> simp_all <;> omega

theorem length_skip (flags : PatternFlags) (text : List Char) :
    (flags.skip text).length ≤ text.length := by
  unfold skip
  split
  · exact length_passBlanks false text
  · exact Nat.le_refl _

end PatternFlags

end ModelLineage
