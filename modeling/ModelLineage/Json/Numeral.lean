import ModelLineage.Json.Value

/-!
# Numbers in JSON text

A numeral is a number as it is spelled: a sign, digits, perhaps a fraction and
an exponent.  Its value is an integer if it is spelled without fraction and
exponent and lies within the 64-bit integers, and a binary64 number otherwise.
A numeral whose magnitude is too large for binary64 has no value.
-/

namespace ModelLineage

namespace Json

/-- Why a text is not the text of a value: it ends too early, or it goes on wrongly. -/
inductive Flaw where
  | ended
  | malformed
  deriving DecidableEq, Inhabited

/-- A number as it is spelled; without a fraction its digits after the point are none. -/
structure Numeral where
  negative : Bool
  whole : List Nat
  fraction : List Nat
  exponent : Option Int
  deriving DecidableEq, Inhabited

/-- The value of a decimal digit. -/
def digit? (char : Char) : Option Nat :=
  if '0' ≤ char ∧ char ≤ '9' then some (char.toNat - '0'.toNat) else none

/-- The digits at the beginning of a text, and what follows them. -/
def takeDigits : List Char → List Nat × List Char
  | [] => ([], [])
  | char :: rest =>
    match digit? char with
    | none => ([], char :: rest)
    | some digit => (digit :: (takeDigits rest).1, (takeDigits rest).2)

theorem length_takeDigits (text : List Char) :
    (takeDigits text).1.length + (takeDigits text).2.length = text.length := by
  induction text with
  | nil => simp [takeDigits]
  | cons char rest ih =>
    simp only [takeDigits]
    split
    · simp
    · simp only [List.length_cons]
      omega

/-- One digit or more at the beginning of a text. -/
def someDigits (text : List Char) : Except Flaw (List Nat × List Char) :=
  match takeDigits text with
  | ([], []) => .error .ended
  | ([], _ :: _) => .error .malformed
  | (digits, rest) => .ok (digits, rest)

theorem length_someDigits {text rest : List Char} {digits : List Nat}
    (taken : someDigits text = .ok (digits, rest)) : rest.length < text.length := by
  have balance := length_takeDigits text
  unfold someDigits at taken
  split at taken
  · cases taken
  · cases taken
  · rename_i read nonempty same
    cases taken
    rw [same] at balance
    cases digits with
    | nil => cases rest <;> simp_all
    | cons digit digits =>
      simp only [List.length_cons] at balance
      omega

namespace Numeral

/-- The digits before the point; a zero stands only alone. -/
def readWhole (text : List Char) : Except Flaw (List Nat × List Char) :=
  match someDigits text with
  | .ok (0 :: _ :: _, _) => .error .malformed
  | other => other

/-- The fraction, if there is a point. -/
def readFraction : List Char → Except Flaw (List Nat × List Char)
  | '.' :: rest => someDigits rest
  | text => .ok ([], text)

/-- The number that some digits spell. -/
def natural (digits : List Nat) : Nat :=
  digits.foldl (fun value digit => 10 * value + digit) 0

/-- The digits of an exponent, with its sign. -/
def readPower (negative : Bool) (text : List Char) : Except Flaw (Option Int × List Char) :=
  match someDigits text with
  | .error flaw => .error flaw
  | .ok (digits, rest) =>
    .ok (some (if negative then -(natural digits : Int) else natural digits), rest)

/-- An exponent after its letter. -/
def readSignedPower : List Char → Except Flaw (Option Int × List Char)
  | '+' :: rest => readPower false rest
  | '-' :: rest => readPower true rest
  | text => readPower false text

/-- The exponent, if there is the letter for one. -/
def readExponent : List Char → Except Flaw (Option Int × List Char)
  | 'e' :: rest => readSignedPower rest
  | 'E' :: rest => readSignedPower rest
  | text => .ok (none, text)

/-- A numeral at the beginning of a text, its sign already read. -/
def read (negative : Bool) (text : List Char) : Except Flaw (Numeral × List Char) :=
  match readWhole text with
  | .error flaw => .error flaw
  | .ok (whole, text) =>
    match readFraction text with
    | .error flaw => .error flaw
    | .ok (fraction, text) =>
      match readExponent text with
      | .error flaw => .error flaw
      | .ok (exponent, text) => .ok (⟨negative, whole, fraction, exponent⟩, text)

theorem length_readWhole {text rest : List Char} {digits : List Nat}
    (taken : readWhole text = .ok (digits, rest)) : rest.length < text.length := by
  unfold readWhole at taken
  split at taken
  · cases taken
  · exact length_someDigits taken

theorem length_readFraction {text rest : List Char} {digits : List Nat}
    (taken : readFraction text = .ok (digits, rest)) : rest.length ≤ text.length := by
  unfold readFraction at taken
  split at taken
  · have bound := length_someDigits taken
    simp only [List.length_cons]
    omega
  · cases taken
    exact Nat.le_refl _

theorem length_readPower {negative : Bool} {text rest : List Char} {power : Option Int}
    (taken : readPower negative text = .ok (power, rest)) : rest.length < text.length := by
  unfold readPower at taken
  split at taken
  · cases taken
  · rename_i same
    cases taken
    exact length_someDigits same

theorem length_readSignedPower {text rest : List Char} {power : Option Int}
    (taken : readSignedPower text = .ok (power, rest)) : rest.length < text.length := by
  unfold readSignedPower at taken
  split at taken
  · have bound := length_readPower taken
    simp only [List.length_cons]
    omega
  · have bound := length_readPower taken
    simp only [List.length_cons]
    omega
  · exact length_readPower taken

theorem length_readExponent {text rest : List Char} {power : Option Int}
    (taken : readExponent text = .ok (power, rest)) : rest.length ≤ text.length := by
  unfold readExponent at taken
  split at taken
  · have bound := length_readSignedPower taken
    simp only [List.length_cons]
    omega
  · have bound := length_readSignedPower taken
    simp only [List.length_cons]
    omega
  · cases taken
    exact Nat.le_refl _

theorem length_read {negative : Bool} {text rest : List Char} {numeral : Numeral}
    (taken : read negative text = .ok (numeral, rest)) : rest.length < text.length := by
  unfold read at taken
  split at taken
  · cases taken
  · rename_i wholeTaken
    have first := length_readWhole wholeTaken
    split at taken
    · cases taken
    · rename_i fractionTaken
      have second := length_readFraction fractionTaken
      split at taken
      · cases taken
      · rename_i exponentTaken
        have third := length_readExponent exponentTaken
        cases taken
        omega

/-! ## The value of a numeral -/

/-- The bound of the significands that are kept exactly. -/
def significandBound : Nat := Nat.pow 2 64

/-- Take up digits while the significand stays within its bound, and leave the others. -/
def gather (significand : Nat) : List Nat → Nat × List Nat
  | [] => (significand, [])
  | digit :: digits =>
    if 10 * significand + digit < significandBound then
      gather (10 * significand + digit) digits
    else (significand, digit :: digits)

/-- The significand of a numeral and the power of ten it is to be scaled by. -/
def scientific (numeral : Numeral) : Nat × Int :=
  let (whole, wholeLeft) := gather 0 numeral.whole
  let (significand, fractionLeft) := gather whole numeral.fraction
  let fractionTaken : Int := (numeral.fraction.length : Int) - fractionLeft.length
  (significand, (wholeLeft.length : Int) - fractionTaken + numeral.exponent.getD 0)

/-- The binary64 number that a numeral stands for, if it is not too large. -/
def real? (numeral : Numeral) : Option Binary64 :=
  let (significand, power) := numeral.scientific
  ((Magnitude.ofNat? significand).bind fun magnitude => magnitude.scaledByTenTo? power).map
    fun magnitude => ⟨numeral.negative, magnitude⟩

/-- The integer that a numeral stands for, if it is spelled as one within 64 bits. -/
def integer? (numeral : Numeral) : Option Int :=
  let value := natural numeral.whole
  if !numeral.fraction.isEmpty || numeral.exponent.isSome then none
  else if numeral.negative then
    if value = 0 ∨ Nat.pow 2 63 < value then none else some (-(value : Int))
  else if value < Nat.pow 2 64 then some value
  else none

/-- The value of a numeral, if it is not too large. -/
def value? (numeral : Numeral) : Option Json :=
  match numeral.integer? with
  | some value => some (.integer value)
  | none => numeral.real?.map .real

end Numeral

end Json

end ModelLineage
