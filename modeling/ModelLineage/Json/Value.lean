import ModelLineage.Number.Binary64

/-!
# JSON values

A JSON value keeps the members of an object in their order and may repeat a key.
Numbers are integers, or binary64 numbers for everything that is written with a
fraction or an exponent or lies outside the 64-bit integers.
-/

namespace ModelLineage

/-- A JSON value. -/
inductive Json where
  | null
  | boolean (value : Bool)
  | integer (value : Int)
  | real (value : Binary64)
  | string (text : String)
  | array (items : List Json)
  | object (members : List (String × Json))
  deriving Inhabited

namespace Json

/-- The array of some strings. -/
def strings (texts : List String) : Json :=
  array (texts.map string)

/-- The object of a map, its members in key order. -/
def ofTexts (entries : List (String × String)) : Json :=
  object (entries.map fun entry => (entry.1, string entry.2))

end Json

end ModelLineage
