import Std.Data.TreeMap.Basic
import ModelLineage.Schema.Model

/-!
# Field rosters

A roster collects fields in order of arrival and keeps one field a name, the
first to arrive.  An index from names to positions finds the field that holds a
name without going through the roster.
-/

namespace ModelLineage

/-- Fields in order of arrival, each name once, with the position of every name. -/
structure FieldRoster where
  fields : Array Field
  positions : Std.TreeMap String Nat

namespace FieldRoster

instance : EmptyCollection FieldRoster := ⟨⟨#[], ∅⟩⟩

instance : Inhabited FieldRoster := ⟨∅⟩

/-- The field that holds a name. -/
def holder? (roster : FieldRoster) (name : String) : Option Field :=
  roster.positions[name]?.bind fun position => roster.fields[position]?

/-- Append a field and note its position. -/
def append (roster : FieldRoster) (field : Field) : FieldRoster :=
  let position := roster.fields.size
  ⟨roster.fields.push field, roster.positions.insert field.name position⟩

/-- Append a field if its name is free. -/
def offer (roster : FieldRoster) (field : Field) : FieldRoster :=
  if (roster.holder? field.name).isSome then roster else roster.append field

/-- Offer fields one after the other. -/
def offerAll (roster : FieldRoster) (fields : List Field) : FieldRoster :=
  fields.foldl offer roster

/-- The fields in order of arrival. -/
def toList (roster : FieldRoster) : List Field :=
  roster.fields.toList

end FieldRoster

end ModelLineage
