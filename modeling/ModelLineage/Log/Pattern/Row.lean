/-!
# Nesting

Where a pattern has several parts side by side, or several classes joined, these
are parts of a row.  A part is as deep as the parts that it holds inside each
other, and a row of several parts is one level deeper than the deepest of them.
-/

namespace ModelLineage

/-- Parts side by side, seen by their depths. -/
structure Row where
  size : Nat
  /-- The greatest depth among the parts before the last. -/
  before : Nat
  /-- The depth of the last part. -/
  last : Nat
  deriving DecidableEq, Inhabited

namespace Row

instance : EmptyCollection Row := ⟨⟨0, 0, 0⟩⟩

/-- Put a part of some depth at the end. -/
def push (row : Row) (depth : Nat) : Row :=
  ⟨row.size + 1, max row.before row.last, depth⟩

/-- Put a number of parts at the end that hold no others. -/
def pushLeaves (row : Row) : Nat → Row
  | 0 => row
  | count + 1 => (row.push 0).pushLeaves count

/-- Wrap the last part in another. -/
def wrapLast (row : Row) : Row :=
  { row with last := row.last + 1 }

/-- The depth of a row as one part. -/
def depth (row : Row) : Nat :=
  if row.size ≤ 1 then row.last else max row.before row.last + 1

@[simp]
theorem depth_empty : (∅ : Row).depth = 0 :=
  rfl

@[simp]
theorem depth_push_empty (depth : Nat) : ((∅ : Row).push depth).depth = depth :=
  rfl

end Row

end ModelLineage
