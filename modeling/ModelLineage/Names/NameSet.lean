/-!
# Sets of names

A `NameSet` lists its names in ascending code-point order without repetition.
The order is part of the type, so two sets with the same members are equal, and
the list of a set is the order in which a document writes it.
-/

namespace ModelLineage

/-- A finite set of names, kept in ascending order. -/
structure NameSet where
  toList : List String
  ascending : toList.Pairwise (· < ·)
  deriving DecidableEq

namespace NameSet

/-- The list with a name put at its place, unless it is there already. -/
def insertInto (name : String) : List String → List String
  | [] => [name]
  | head :: tail =>
    if name < head then name :: head :: tail
    else if head < name then head :: insertInto name tail
    else head :: tail

theorem mem_insertInto {name other : String} {names : List String} :
    other ∈ insertInto name names ↔ other = name ∨ other ∈ names := by
  induction names with
  | nil => simp [insertInto]
  | cons head tail ih =>
    simp only [insertInto]
    split
    · simp
    · split
      · simp only [List.mem_cons, ih]
        constructor
        · rintro (h | h | h) <;> simp [h]
        · rintro (h | h | h) <;> simp [h]
      · rename_i notBefore notAfter
        have same : name = head :=
          String.le_antisymm (String.not_lt.mp notAfter) (String.not_lt.mp notBefore)
        simp [same]

theorem pairwise_insertInto {name : String} {names : List String}
    (ascending : names.Pairwise (· < ·)) :
    (insertInto name names).Pairwise (· < ·) := by
  induction names with
  | nil => simp [insertInto]
  | cons head tail ih =>
    have ⟨below, rest⟩ := List.pairwise_cons.mp ascending
    simp only [insertInto]
    split
    · rename_i before
      refine List.pairwise_cons.mpr ⟨fun other member => ?_, ascending⟩
      rcases List.mem_cons.mp member with rfl | member
      · exact before
      · exact String.lt_trans before (below other member)
    · split
      · rename_i after
        refine List.pairwise_cons.mpr ⟨fun other member => ?_, ih rest⟩
        rcases mem_insertInto.mp member with rfl | member
        · exact after
        · exact below other member
      · exact ascending

theorem ascending_nil : ([] : List String).Pairwise (· < ·) :=
  .nil

instance : EmptyCollection NameSet := ⟨⟨[], ascending_nil⟩⟩

instance : Inhabited NameSet := ⟨∅⟩

instance : Membership String NameSet := ⟨fun names name => name ∈ names.toList⟩

theorem mem_iff {names : NameSet} {name : String} : name ∈ names ↔ name ∈ names.toList :=
  Iff.rfl

instance (name : String) (names : NameSet) : Decidable (name ∈ names) :=
  inferInstanceAs (Decidable (name ∈ names.toList))

/-- Whether a name is in the set. -/
def contains (names : NameSet) (name : String) : Bool :=
  decide (name ∈ names)

@[simp]
theorem contains_iff {names : NameSet} {name : String} :
    names.contains name = true ↔ name ∈ names := by
  simp [contains]

/-- Put a name into the set. -/
def insert (names : NameSet) (name : String) : NameSet :=
  ⟨insertInto name names.toList, pairwise_insertInto names.ascending⟩

@[simp]
theorem mem_insert {names : NameSet} {name other : String} :
    other ∈ names.insert name ↔ other = name ∨ other ∈ names :=
  mem_insertInto

@[simp]
theorem not_mem_empty {name : String} : name ∉ (∅ : NameSet) := by
  show name ∉ []
  simp

/-- The set of the names on a list. -/
def ofList (names : List String) : NameSet :=
  names.foldr (fun name set => set.insert name) ∅

@[simp]
theorem mem_ofList {names : List String} {name : String} :
    name ∈ ofList names ↔ name ∈ names := by
  induction names with
  | nil => simp [ofList]
  | cons head tail ih =>
    have unfolded : ofList (head :: tail) = (ofList tail).insert head := rfl
    rw [unfolded, mem_insert, ih, List.mem_cons]

end NameSet

end ModelLineage
