import ModelLineage.Schema.Consistency

/-!
# Flattening reports

What flattening had to settle on the way: ancestors that no model answers to,
and fields of one name but different types, of which only the first is kept.
-/

namespace ModelLineage

/-- A field that gave way to an earlier field of its name and of another type. -/
structure FieldConflict where
  model : String
  field : String
  kept : FieldType
  dropped : FieldType
  source : String
  deriving DecidableEq, Inhabited

/-- Dangling ancestors and field conflicts in the order in which they were found. -/
structure Report where
  dangling : Array DanglingAncestor
  conflicts : Array FieldConflict
  deriving DecidableEq, Inhabited

namespace Report

/-- The report with nothing in it. -/
def empty : Report := ⟨#[], #[]⟩

/-- Nothing had to be settled. -/
def isEmpty (report : Report) : Bool :=
  report.dangling.isEmpty && report.conflicts.isEmpty

end Report

end ModelLineage
