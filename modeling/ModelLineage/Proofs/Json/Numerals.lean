import Mathlib.Data.List.Forall2
import ModelLineage.Json.Numeral

/-!
# How numerals are spelled

A numeral is spelled by a sign, digits without a needless zero in front, perhaps a
point with digits after it, and perhaps a letter, a sign and the digits of an
exponent.  What is spelled in this way is read as that numeral, provided that the
text does not go on with something that could belong to it.
-/

namespace ModelLineage

namespace Json

/-- Characters that are the digits of a list. -/
def SpellDigits (chars : List Char) (digits : List Nat) : Prop :=
  List.Forall₂ (fun char digit => digit? char = some digit) chars digits

/-- The text does not begin with a digit. -/
def EndsDigits (text : List Char) : Prop :=
  ∀ char ∈ text.head?, digit? char = none

/-- The text does not begin with a digit, a point or the letter of an exponent. -/
def EndsNumeral (text : List Char) : Prop :=
  ∀ char ∈ text.head?, digit? char = none ∧ char ≠ '.' ∧ char ≠ 'e' ∧ char ≠ 'E'

theorem EndsNumeral.endsDigits
    {text : List Char}
    (ends : EndsNumeral text) :
    EndsDigits text :=
  fun char first => (ends char first).1

theorem takeDigits_append
    {chars text : List Char} {digits : List Nat}
    (spelled : SpellDigits chars digits)
    (ends : EndsDigits text) :
    takeDigits (chars ++ text) = (digits, text) := by
  induction spelled with
  | nil =>
      cases text with
      | nil => rfl
      | cons char rest =>
          rw [List.nil_append, takeDigits, ends char rfl]
  | cons first _ ih =>
      rw [List.cons_append, takeDigits, first, ih]

theorem someDigits_append
    {chars text : List Char} {digits : List Nat}
    (spelled : SpellDigits chars digits)
    (nonempty : digits ≠ [])
    (ends : EndsDigits text) :
    someDigits (chars ++ text) = .ok (digits, text) := by
  rw [someDigits, takeDigits_append spelled ends]
  cases digits with
  | nil => exact absurd rfl nonempty
  | cons digit digits => rfl

namespace Numeral

/-- The digits before the point: one or more, and a zero only alone. -/
structure SpellsWhole (chars : List Char) (digits : List Nat) : Prop where
  spelled : SpellDigits chars digits
  nonempty : digits ≠ []
  unpadded : ∀ digit rest, digits ≠ 0 :: digit :: rest

/-- No fraction, or a point and some digits. -/
inductive SpellsFraction : List Char → List Nat → Prop where
  | absent :
      SpellsFraction [] []
  | point {chars : List Char} {digits : List Nat}
      (spelled : SpellDigits chars digits)
      (nonempty : digits ≠ []) :
      SpellsFraction ('.' :: chars) digits

/-- Nothing or a plus for a positive exponent, a minus for a negative one. -/
inductive SpellsSign : List Char → Bool → Prop where
  | absent : SpellsSign [] false
  | plus : SpellsSign ['+'] false
  | minus : SpellsSign ['-'] true

/-- No exponent, or a letter, a sign and some digits. -/
inductive SpellsExponent : List Char → Option Int → Prop where
  | absent :
      SpellsExponent [] none
  | power {letter : Char} {sign chars : List Char} {negative : Bool} {digits : List Nat}
      (lettered : letter = 'e' ∨ letter = 'E')
      (signed : SpellsSign sign negative)
      (spelled : SpellDigits chars digits)
      (nonempty : digits ≠ []) :
      SpellsExponent (letter :: sign ++ chars)
        (some (if negative then -(natural digits : Int) else natural digits))

/-- The parts of a numeral in their order. -/
inductive Spells : List Char → Numeral → Prop where
  | parts
      {negative : Bool} {wholeChars fractionChars exponentChars : List Char}
      {whole fraction : List Nat} {exponent : Option Int}
      (wholeSpelled : SpellsWhole wholeChars whole)
      (fractionSpelled : SpellsFraction fractionChars fraction)
      (exponentSpelled : SpellsExponent exponentChars exponent) :
      Spells
        ((if negative then ['-'] else []) ++ (wholeChars ++ (fractionChars ++ exponentChars)))
        ⟨negative, whole, fraction, exponent⟩

theorem readWhole_append
    {chars text : List Char} {digits : List Nat}
    (spelled : SpellsWhole chars digits)
    (ends : EndsDigits text) :
    readWhole (chars ++ text) = .ok (digits, text) := by
  rw [readWhole, someDigits_append spelled.spelled spelled.nonempty ends]
  split
  · rename_i digit rest _ same
    cases same
    exact absurd rfl (spelled.unpadded digit rest)
  · rfl

theorem readFraction_append
    {chars text : List Char} {digits : List Nat}
    (spelled : SpellsFraction chars digits)
    (ends : EndsDigits text)
    (pointless : ∀ char ∈ text.head?, char ≠ '.') :
    readFraction (chars ++ text) = .ok (digits, text) := by
  cases spelled with
  | absent =>
      rw [List.nil_append, readFraction]
      rintro rest rfl
      exact pointless '.' rfl rfl
  | point spelled nonempty =>
      rw [List.cons_append, readFraction]
      exact someDigits_append spelled nonempty ends

theorem readPower_append
    {chars text : List Char} {digits : List Nat}
    (negative : Bool)
    (spelled : SpellDigits chars digits)
    (nonempty : digits ≠ [])
    (ends : EndsDigits text) :
    readPower negative (chars ++ text) =
      .ok (some (if negative then -(natural digits : Int) else natural digits), text) := by
  rw [readPower, someDigits_append spelled nonempty ends]

theorem readSignedPower_append
    {sign chars text : List Char} {negative : Bool} {digits : List Nat}
    (signed : SpellsSign sign negative)
    (spelled : SpellDigits chars digits)
    (nonempty : digits ≠ [])
    (ends : EndsDigits text) :
    readSignedPower (sign ++ (chars ++ text)) =
      .ok (some (if negative then -(natural digits : Int) else natural digits), text) := by
  have power := readPower_append negative spelled nonempty ends
  cases signed with
  | plus => exact power
  | minus => exact power
  | absent =>
      rw [List.nil_append, ← power]
      cases spelled with
      | nil => exact absurd rfl nonempty
      | cons first _ =>
          rw [List.cons_append, readSignedPower]
          · rintro rest same
            cases same
            cases first
          · rintro rest same
            cases same
            cases first

theorem readExponent_append
    {chars text : List Char} {exponent : Option Int}
    (spelled : SpellsExponent chars exponent)
    (ends : EndsNumeral text) :
    readExponent (chars ++ text) = .ok (exponent, text) := by
  cases spelled with
  | absent =>
      rw [List.nil_append, readExponent]
      · rintro rest rfl
        exact (ends 'e' rfl).2.2.1 rfl
      · rintro rest rfl
        exact (ends 'E' rfl).2.2.2 rfl
  | @power letter sign chars negative digits lettered signed spelled nonempty =>
      have power := readSignedPower_append signed spelled nonempty ends.endsDigits
      rw [List.cons_append, List.cons_append, List.append_assoc]
      rcases lettered with rfl | rfl
      · exact power
      · exact power

/-- What spells an exponent begins neither with a digit nor with a point. -/
theorem SpellsExponent.begins
    {chars text : List Char} {exponent : Option Int}
    (spelled : SpellsExponent chars exponent)
    (ends : EndsNumeral text) :
    ∀ char ∈ (chars ++ text).head?, digit? char = none ∧ char ≠ '.' := by
  cases spelled with
  | absent =>
      intro char first
      exact ⟨(ends char first).1, (ends char first).2.1⟩
  | power lettered _ _ _ =>
      intro char first
      cases first
      rcases lettered with rfl | rfl <;> decide

theorem SpellsFraction.endsDigits
    {chars text : List Char} {digits : List Nat}
    (spelled : SpellsFraction chars digits)
    (ends : EndsDigits text) :
    EndsDigits (chars ++ text) := by
  cases spelled with
  | absent => exact ends
  | point _ _ =>
      intro char first
      cases first
      decide

/-- What spells a numeral is read as it, after its sign. -/
theorem Spells.read_append
    {chars text : List Char} {numeral : Numeral}
    (spelled : Spells chars numeral)
    (ends : EndsNumeral text) :
    ∃ digits,
      chars = (if numeral.negative then ['-'] else []) ++ digits ∧
        (∃ char rest, digits = char :: rest ∧ (digit? char).isSome) ∧
        read numeral.negative (digits ++ text) = .ok (numeral, text) := by
  cases spelled with
  | @parts negative wholeChars fractionChars exponentChars whole fraction exponent
      wholeSpelled fractionSpelled exponentSpelled =>
      have begins := exponentSpelled.begins ends
      have endsFraction : EndsDigits (exponentChars ++ text) :=
        fun char first => (begins char first).1
      refine ⟨_, rfl, ?_, ?_⟩
      · cases wholeSpelled.spelled with
        | nil => exact absurd rfl wholeSpelled.nonempty
        | @cons char _ rest _ first _ =>
            exact ⟨char, _, rfl, Option.isSome_iff_exists.mpr ⟨_, first⟩⟩
      · rw [List.append_assoc, List.append_assoc, read,
          readWhole_append wholeSpelled (fractionSpelled.endsDigits endsFraction)]
        simp only [readFraction_append fractionSpelled endsFraction
          fun char first => (begins char first).2]
        simp only [readExponent_append exponentSpelled ends]

end Numeral

end Json

end ModelLineage
