import Std.Data.TreeMap.Lemmas
import Std.Data.TreeSet.Lemmas
import ModelLineage.Names.NameMap
import ModelLineage.Names.NameSet

/-!
# Indexes of maps and sets

Looking a name up in a `NameMap` goes through its entries one by one.  Where a
map is asked for many names, an index answers faster: a search tree that carries
the proof that it gives the answers of the map.  What is computed by way of an
index is therefore what the map itself would give.

The index of a `NameSet` is the search tree of its names.  A set that grows by
many names grows there, and is put in order again at the end.
-/

namespace ModelLineage

namespace NameMap

variable {Value : Type}

/-- A search tree that answers for a map. -/
structure Index (map : NameMap Value) where
  tree : Std.TreeMap String Value
  agrees : ∀ name, tree[name]? = map.get? name

namespace Index

variable {map : NameMap Value}

/-- The value under a name. -/
def get? (index : map.Index) (name : String) : Option Value :=
  index.tree[name]?

/-- Whether a name has an entry. -/
def contains (index : map.Index) (name : String) : Bool :=
  (index.get? name).isSome

@[simp]
theorem get?_eq (index : map.Index) (name : String) : index.get? name = map.get? name :=
  index.agrees name

@[simp]
theorem contains_eq (index : map.Index) (name : String) :
    index.contains name = map.contains name := by
  simp [contains, NameMap.contains]

end Index

theorem getElem?_ofList_entries {entries : List (String × Value)}
    (ascending : (entries.map Prod.fst).Pairwise (· < ·)) (name : String) :
    (Std.TreeMap.ofList entries)[name]? = entries.lookup name := by
  have distinct :
      entries.Pairwise fun left right => ¬ compare left.1 right.1 = .eq := by
    refine (List.pairwise_map.mp ascending).imp fun {left right} below same => ?_
    rw [Std.LawfulEqCmp.eq_of_compare same] at below
    exact String.lt_irrefl _ below
  cases found : entries.lookup name with
  | none =>
    refine Std.TreeMap.getElem?_ofList_of_contains_eq_false ?_
    rw [List.lookup_eq_none_iff] at found
    simpa [List.contains_eq_mem] using fun value member => by simpa using found (name, value) member
  | some value =>
    obtain ⟨before, after, rfl, -⟩ := List.lookup_eq_some_iff.mp found
    exact Std.TreeMap.getElem?_ofList_of_mem Std.ReflCmp.compare_self distinct (by simp)

/-- The index of a map. -/
def index (map : NameMap Value) : map.Index :=
  ⟨.ofList map.entries, getElem?_ofList_entries map.ascending⟩

end NameMap

namespace NameSet

/-- The names of a set as a search tree. -/
def index (names : NameSet) : Std.TreeSet String :=
  .ofList names.toList

/-- The set of the names in a search tree. -/
def ofIndex (tree : Std.TreeSet String) : NameSet :=
  ofList tree.toList

@[simp]
theorem mem_index {names : NameSet} {name : String} : name ∈ names.index ↔ name ∈ names := by
  simp [index, Std.TreeSet.mem_ofList, mem_iff]

@[simp]
theorem mem_ofIndex {tree : Std.TreeSet String} {name : String} :
    name ∈ ofIndex tree ↔ name ∈ tree := by
  simp [ofIndex]

end NameSet

end ModelLineage
