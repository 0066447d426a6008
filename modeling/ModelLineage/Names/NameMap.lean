/-!
# Maps keyed by name

A `NameMap` lists its entries in ascending code-point order of their names, one
entry a name.  The order is part of the type, so two maps with the same lookups
are equal, and going through a map always meets the names in that order.
-/

namespace ModelLineage

/-- A finite map from names, its entries in ascending order of the names. -/
structure NameMap (Value : Type) where
  entries : List (String × Value)
  ascending : (entries.map Prod.fst).Pairwise (· < ·)

instance {Value : Type} [DecidableEq Value] : DecidableEq (NameMap Value) :=
  fun left right =>
    decidable_of_iff (left.entries = right.entries)
      ⟨fun same => by cases left; cases right; simp_all, fun same => by rw [same]⟩

namespace NameMap

variable {Value : Type}

@[ext]
theorem ext {left right : NameMap Value} (same : left.entries = right.entries) :
    left = right := by
  cases left; cases right; simp_all

/--
The entries with a value put under a name.  An entry of that name that is there
already becomes `merged` of its value.
-/
def insertInto (merged : Value → Value) (name : String) (value : Value) :
    List (String × Value) → List (String × Value)
  | [] => [(name, value)]
  | head :: tail =>
    if name < head.1 then (name, value) :: head :: tail
    else if head.1 < name then head :: insertInto merged name value tail
    else (head.1, merged head.2) :: tail

theorem mem_keys_insertInto {merged : Value → Value} {name other : String} {value : Value}
    {entries : List (String × Value)} :
    other ∈ (insertInto merged name value entries).map Prod.fst ↔
      other = name ∨ other ∈ entries.map Prod.fst := by
  induction entries with
  | nil => simp [insertInto]
  | cons head tail ih =>
    simp only [insertInto]
    split
    · simp
    · split
      · simp only [List.map_cons, List.mem_cons, ih]
        constructor
        · rintro (h | h | h) <;> simp [h]
        · rintro (h | h | h) <;> simp [h]
      · rename_i notBefore notAfter
        have same : name = head.1 :=
          String.le_antisymm (String.not_lt.mp notAfter) (String.not_lt.mp notBefore)
        simp [same]

theorem pairwise_insertInto {merged : Value → Value} {name : String} {value : Value}
    {entries : List (String × Value)}
    (ascending : (entries.map Prod.fst).Pairwise (· < ·)) :
    ((insertInto merged name value entries).map Prod.fst).Pairwise (· < ·) := by
  induction entries with
  | nil => simp [insertInto]
  | cons head tail ih =>
    have ⟨below, rest⟩ := List.pairwise_cons.mp ascending
    simp only [insertInto]
    split
    · rename_i before
      refine List.pairwise_cons.mpr ⟨fun other member => ?_, ascending⟩
      rcases List.mem_cons.mp member with rfl | member
      · exact before
      · exact String.lt_trans before (below other member)
    · split
      · rename_i after
        refine List.pairwise_cons.mpr ⟨fun other member => ?_, ih rest⟩
        rcases mem_keys_insertInto.mp member with rfl | member
        · exact after
        · exact below other member
      · exact ascending

instance : EmptyCollection (NameMap Value) := ⟨⟨[], .nil⟩⟩

instance : Inhabited (NameMap Value) := ⟨∅⟩

/-- The names that have an entry, in ascending order. -/
def keys (map : NameMap Value) : List String :=
  map.entries.map Prod.fst

/-- The values, in ascending order of their names. -/
def values (map : NameMap Value) : List Value :=
  map.entries.map Prod.snd

/-- The number of entries. -/
def size (map : NameMap Value) : Nat :=
  map.entries.length

/-- The value under a name. -/
def get? (map : NameMap Value) (name : String) : Option Value :=
  map.entries.lookup name

/-- Whether a name has an entry. -/
def contains (map : NameMap Value) (name : String) : Bool :=
  (map.get? name).isSome

/-- Put a value under a name, in place of what was there. -/
def insert (map : NameMap Value) (name : String) (value : Value) : NameMap Value :=
  ⟨insertInto (fun _ => value) name value map.entries, pairwise_insertInto map.ascending⟩

/-- Put a value under a name that has none; an entry that is there stays. -/
def insertIfNew (map : NameMap Value) (name : String) (value : Value) : NameMap Value :=
  ⟨insertInto id name value map.entries, pairwise_insertInto map.ascending⟩

/-- The map of a list of entries; of two entries of one name the later counts. -/
def ofList (entries : List (String × Value)) : NameMap Value :=
  entries.foldr (fun entry map => map.insertIfNew entry.1 entry.2) ∅

/-- Change every value, knowing its name. -/
def map {Image : Type} (image : String → Value → Image) (entries : NameMap Value) :
    NameMap Image where
  entries := entries.entries.map fun entry => (entry.1, image entry.1 entry.2)
  ascending := by
    have same :
        (entries.entries.map fun entry => (entry.1, image entry.1 entry.2)).map Prod.fst =
          entries.entries.map Prod.fst := by
      simp [Function.comp_def]
    rw [same]
    exact entries.ascending

@[simp]
theorem keys_map {Image : Type} (image : String → Value → Image) (entries : NameMap Value) :
    (entries.map image).keys = entries.keys := by
  simp [map, keys, Function.comp_def]

end NameMap

end ModelLineage
