/-!
# Numbers as values of fields

A condition on a log field may ask for a value by a number.  As with patterns, it
only matters which texts are numbers.
-/

namespace ModelLineage

/-- Whether digits, perhaps with a point among them and an exponent after them, are a number. -/
def isUnsignedDecimal (text : List Char) : Bool :=
  let whole := text.takeWhile Char.isDigit
  let afterWhole := text.dropWhile Char.isDigit
  let afterPoint := if afterWhole.head? = some '.' then afterWhole.drop 1 else []
  let fraction := afterPoint.takeWhile Char.isDigit
  let rest :=
    if afterWhole.head? = some '.' then afterPoint.dropWhile Char.isDigit else afterWhole
  (!whole.isEmpty || !fraction.isEmpty) &&
    match rest with
    | [] => true
    | letter :: power =>
      let digits := if power.head? = some '+' || power.head? = some '-' then power.drop 1 else power
      (letter = 'e' || letter = 'E') && !digits.isEmpty && digits.all Char.isDigit

/-- Whether a text is a number, or a word for infinity or for no number. -/
def isNumberText (text : String) : Bool :=
  let unsigned := match text.toList with
    | '+' :: rest => rest
    | '-' :: rest => rest
    | rest => rest
  isUnsignedDecimal unsigned ||
    String.ofList (unsigned.map Char.toLower) ∈ ["inf", "infinity", "nan"]

end ModelLineage
