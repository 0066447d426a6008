import Mathlib.Data.List.Basic
import ModelLineage.Names.NameIndex

/-!
# Sets and maps by what they contain

The order of a `NameSet` and of a `NameMap` is part of the type.  A set is
therefore determined by its members, and a map by its lookups.  Listing the
entries of a map and putting them together again gives the map back.
-/

namespace ModelLineage

/-- Putting a value under a name changes no other lookup in a search tree. -/
theorem getElem?_insert_name
    {Value : Type}
    (tree : Std.TreeMap String Value)
    (key name : String)
    (value : Value) :
    (tree.insert key value)[name]? = if key = name then some value else tree[name]? := by
  simp only [Std.TreeMap.getElem?_insert, Std.LawfulEqCmp.compare_eq_iff_eq]

theorem getElem?_eq_none_of_not_contains
    {Value : Type} {tree : Std.TreeMap String Value} {name : String}
    (absent : ¬ tree.contains name = true) :
    tree[name]? = none := by
  apply Std.TreeMap.getElem?_eq_none
  rw [Std.TreeMap.mem_iff_contains]
  exact absent

namespace NameSet

theorem nodup (names : NameSet) : names.toList.Nodup := by
  refine names.ascending.imp ?_
  intro left right below same
  subst same
  exact String.lt_irrefl left below

/-- Two sets with the same members are equal. -/
theorem ext_mem
    {left right : NameSet}
    (same : ∀ name, name ∈ left ↔ name ∈ right) :
    left = right := by
  have permuted : left.toList.Perm right.toList :=
    (List.perm_ext_iff_of_nodup left.nodup right.nodup).mpr same
  have listed : left.toList = right.toList := by
    refine permuted.eq_of_pairwise ?_ left.ascending right.ascending
    intro first second _ _ below above
    exact (String.lt_asymm below above).elim
  cases left
  cases right
  cases listed
  rfl

theorem le_of_find?
    {names : NameSet} {keep : String → Bool} {name other : String}
    (found : names.toList.find? keep = some name)
    (listed : other ∈ names)
    (kept : keep other = true) :
    name ≤ other := by
  rcases List.find?_eq_some_iff_append.mp found with ⟨_, before, after, split, dropped⟩
  have ascending := names.ascending
  rw [split] at ascending
  rw [mem_iff, split, List.mem_append, List.mem_cons] at listed
  rcases listed with earlier | rfl | later
  · have unkept := dropped other earlier
    rw [kept] at unkept
    cases unkept
  · exact String.le_refl other
  · have tail := (List.pairwise_append.mp ascending).2.1
    exact String.not_lt.mp (String.lt_asymm ((List.pairwise_cons.mp tail).1 other later))

/-- The name that is found in a set is the least of those looked for. -/
theorem find?_eq_some_iff
    {names : NameSet} {keep : String → Bool} {name : String} :
    names.toList.find? keep = some name ↔
      name ∈ names ∧ keep name = true ∧
        ∀ other ∈ names, keep other = true → name ≤ other := by
  constructor
  · intro found
    exact ⟨List.mem_of_find?_eq_some found, List.find?_some found,
      fun _ listed kept => le_of_find? found listed kept⟩
  · rintro ⟨listed, kept, least⟩
    cases found : names.toList.find? keep with
    | none => exact absurd kept (List.find?_eq_none.mp found name listed)
    | some first =>
        have below : first ≤ name := le_of_find? found listed kept
        have above : name ≤ first :=
          least first (List.mem_of_find?_eq_some found) (List.find?_some found)
        rw [String.le_antisymm below above]

@[simp]
theorem ofList_toList (names : NameSet) : ofList names.toList = names := by
  apply ext_mem
  intro name
  rw [mem_ofList, mem_iff]

end NameSet

namespace NameMap

variable {Value : Type}

theorem nodup_keys (map : NameMap Value) : map.keys.Nodup := by
  refine map.ascending.imp ?_
  intro left right below same
  subst same
  exact String.lt_irrefl left below

theorem nodup_entries (map : NameMap Value) : map.entries.Nodup := by
  refine (List.pairwise_map.mp map.nodup_keys).imp ?_
  intro left right otherKey same
  exact otherKey (congrArg Prod.fst same)

/-- In a map, the entries after one have greater names. -/
theorem lt_of_entries_eq_append
    {map : NameMap Value} {before after : List (String × Value)} {entry : String × Value}
    (split : map.entries = before ++ entry :: after) :
    ∀ later ∈ after, entry.1 < later.1 := by
  have ascending := List.pairwise_map.mp map.ascending
  rw [split] at ascending
  exact (List.pairwise_cons.mp (List.pairwise_append.mp ascending).2.1).1

theorem lookup_of_mem
    {entries : List (String × Value)} {name : String} {value : Value}
    (distinct : (entries.map Prod.fst).Nodup)
    (member : (name, value) ∈ entries) :
    entries.lookup name = some value := by
  induction entries with
  | nil => cases member
  | cons entry entries ih =>
      rw [List.map_cons, List.nodup_cons] at distinct
      rcases List.mem_cons.mp member with rfl | later
      · exact List.lookup_cons_self
      · have other : name ≠ entry.1 := by
          intro same
          apply distinct.1
          rw [← same]
          exact List.mem_map.mpr ⟨(name, value), later, rfl⟩
        rw [List.lookup_cons, beq_eq_false_iff_ne.mpr other]
        exact ih distinct.2 later

/-- The entries of a map are exactly its lookups. -/
theorem mem_entries_iff {map : NameMap Value} {name : String} {value : Value} :
    (name, value) ∈ map.entries ↔ map.get? name = some value := by
  constructor
  · exact lookup_of_mem map.nodup_keys
  · intro found
    rcases List.lookup_eq_some_iff.mp found with ⟨before, after, split, -⟩
    rw [split]
    simp

theorem mem_keys_iff {map : NameMap Value} {name : String} :
    name ∈ map.keys ↔ ∃ value, map.get? name = some value := by
  constructor
  · intro listed
    rcases List.mem_map.mp listed with ⟨⟨key, value⟩, member, rfl⟩
    exact ⟨value, mem_entries_iff.mp member⟩
  · rintro ⟨value, found⟩
    exact List.mem_map.mpr ⟨(name, value), mem_entries_iff.mpr found, rfl⟩

theorem contains_iff {map : NameMap Value} {name : String} :
    map.contains name = true ↔ ∃ value, map.get? name = some value := by
  rw [contains, Option.isSome_iff_exists]

theorem contains_iff_mem_keys {map : NameMap Value} {name : String} :
    map.contains name = true ↔ name ∈ map.keys := by
  rw [contains_iff, mem_keys_iff]

theorem mem_values_iff {map : NameMap Value} {value : Value} :
    value ∈ map.values ↔ ∃ name, map.get? name = some value := by
  constructor
  · intro listed
    rcases List.mem_map.mp listed with ⟨⟨key, value⟩, member, rfl⟩
    exact ⟨key, mem_entries_iff.mp member⟩
  · rintro ⟨name, found⟩
    exact List.mem_map.mpr ⟨(name, value), mem_entries_iff.mpr found, rfl⟩

/-- Going through the values of a map is looking up its names in their order. -/
theorem flatMap_values
    {Item : Type}
    (map : NameMap Value)
    (items : Value → List Item) :
    map.values.flatMap items =
      map.keys.flatMap fun name => ((map.get? name).map items).getD [] := by
  rw [values, keys, List.flatMap_map, List.flatMap_map]
  apply List.flatMap_congr
  intro entry member
  rw [mem_entries_iff.mp member]
  rfl

/-- Two maps with the same lookups are equal. -/
theorem ext_get?
    {left right : NameMap Value}
    (same : ∀ name, left.get? name = right.get? name) :
    left = right := by
  have permuted : left.entries.Perm right.entries := by
    refine (List.perm_ext_iff_of_nodup left.nodup_entries right.nodup_entries).mpr ?_
    rintro ⟨name, value⟩
    rw [mem_entries_iff, mem_entries_iff, same name]
  apply ext
  refine permuted.eq_of_pairwise ?_
    (List.pairwise_map.mp left.ascending) (List.pairwise_map.mp right.ascending)
  intro first second _ _ below above
  exact (String.lt_asymm below above).elim

@[simp]
theorem get?_map
    {Image : Type}
    (image : String → Value → Image)
    (map : NameMap Value)
    (name : String) :
    (map.map image).get? name = (map.get? name).map (image name) := by
  have lookedUp : ∀ entries : List (String × Value),
      (entries.map fun entry => (entry.1, image entry.1 entry.2)).lookup name =
        (entries.lookup name).map (image name) := by
    intro entries
    induction entries with
    | nil => rfl
    | cons entry entries ih =>
        rw [List.map_cons, List.lookup_cons, List.lookup_cons]
        cases same : name == entry.1 with
        | true =>
            rw [eq_of_beq same]
            rfl
        | false => exact ih
  exact lookedUp map.entries

/-- Putting an entry in place changes no other lookup. -/
theorem lookup_insertInto
    {entries : List (String × Value)}
    (ascending : (entries.map Prod.fst).Pairwise (· < ·))
    (merged : Value → Value)
    (key name : String)
    (value : Value) :
    (insertInto merged key value entries).lookup name =
      if key = name then some (((entries.lookup key).map merged).getD value)
      else entries.lookup name := by
  induction entries with
  | nil => grind [insertInto]
  | cons head tail ih =>
      rcases List.pairwise_cons.mp ascending with ⟨below, rest⟩
      rw [insertInto]
      split
      · rename_i before
        have absent : (head :: tail).lookup key = none := by
          rw [List.lookup_eq_none_iff]
          intro entry listed
          rw [bne_iff_ne]
          rintro rfl
          rcases List.mem_cons.mp listed with rfl | later
          · exact String.lt_irrefl _ before
          · exact String.lt_asymm before (below _ (List.mem_map_of_mem later))
        rw [absent]
        grind
      · split
        · rename_i after
          have other : key ≠ head.1 := by
            rintro rfl
            exact String.lt_irrefl _ after
          have skipped : (head :: tail).lookup key = tail.lookup key := by
            rw [List.lookup_cons, beq_eq_false_iff_ne.mpr other]
          rw [skipped, List.lookup_cons, List.lookup_cons, ih rest]
          grind
        · rename_i notBefore notAfter
          have same : key = head.1 :=
            String.le_antisymm (String.not_lt.mp notAfter) (String.not_lt.mp notBefore)
          grind

/-- Putting a value under a name changes no other lookup. -/
theorem get?_insert
    (map : NameMap Value)
    (key name : String)
    (value : Value) :
    (map.insert key value).get? name = if key = name then some value else map.get? name := by
  have placed := lookup_insertInto map.ascending (fun _ => value) key name value
  have replaced :
      ((map.entries.lookup key).map fun _ => value).getD value = value := by
    cases map.entries.lookup key <;> rfl
  rw [replaced] at placed
  exact placed

/-- A value that is put under a name where there is one already is not seen. -/
theorem get?_insertIfNew
    (map : NameMap Value)
    (key name : String)
    (value : Value) :
    (map.insertIfNew key value).get? name =
      if key = name then some ((map.get? key).getD value) else map.get? name := by
  have placed := lookup_insertInto map.ascending id key name value
  rw [Option.map_id_fun, id_eq] at placed
  exact placed

/-- Of two entries of one name, the map of a list has the later. -/
theorem get?_ofList
    (entries : List (String × Value))
    (name : String) :
    (ofList entries).get? name = entries.reverse.lookup name := by
  induction entries with
  | nil => rfl
  | cons entry entries ih =>
      have unfolded :
          ofList (entry :: entries) = (ofList entries).insertIfNew entry.1 entry.2 := rfl
      rw [unfolded, get?_insertIfNew, List.reverse_cons, List.lookup_append, ← ih,
        List.lookup_cons, List.lookup_nil]
      by_cases same : entry.1 = name
      · rw [if_pos same, same, beq_self_eq_true]
        cases (ofList entries).get? name <;> rfl
      · rw [if_neg same, beq_eq_false_iff_ne.mpr (Ne.symm same), Option.or_none]

theorem get?_ofList_of_last
    {before after : List (String × Value)} {name : String} {value : Value}
    (last : ∀ entry ∈ after, entry.1 ≠ name) :
    (ofList (before ++ (name, value) :: after)).get? name = some value := by
  rw [get?_ofList, List.lookup_eq_some_iff]
  refine ⟨after.reverse, before.reverse, by simp, ?_⟩
  intro entry listed
  rw [bne_iff_ne]
  exact (last entry (List.mem_reverse.mp listed)).symm

theorem mem_keys_ofList
    {entries : List (String × Value)} {name : String} :
    name ∈ (ofList entries).keys ↔ name ∈ entries.map Prod.fst := by
  induction entries with
  | nil => rfl
  | cons entry entries ih =>
      rw [List.map_cons, List.mem_cons, ← ih]
      exact mem_keys_insertInto

theorem mem_insertInto_id
    {name : String} {value : Value} {entry : String × Value} {entries : List (String × Value)}
    (member : entry ∈ insertInto id name value entries) :
    entry = (name, value) ∨ entry ∈ entries := by
  induction entries with
  | nil => exact .inl (List.mem_singleton.mp member)
  | cons head tail ih =>
      rw [insertInto] at member
      split at member
      · exact List.mem_cons.mp member
      · split at member
        · rcases List.mem_cons.mp member with rfl | later
          · exact .inr List.mem_cons_self
          · exact (ih later).imp_right (List.mem_cons_of_mem head)
        · exact .inr member

/-- The map of a list of entries holds no others. -/
theorem mem_of_mem_ofList
    {entry : String × Value} {entries : List (String × Value)}
    (member : entry ∈ (ofList entries).entries) :
    entry ∈ entries := by
  induction entries with
  | nil => cases member
  | cons head tail ih =>
      rcases mem_insertInto_id member with rfl | kept
      · exact List.mem_cons_self
      · exact List.mem_cons_of_mem _ (ih kept)

theorem entries_insertIfNew_of_below
    {map : NameMap Value} {name : String} {value : Value}
    (below : ∀ key ∈ map.keys, name < key) :
    (map.insertIfNew name value).entries = (name, value) :: map.entries := by
  show insertInto id name value map.entries = _
  cases shape : map.entries with
  | nil => rfl
  | cons entry entries =>
      have first : name < entry.1 := by
        apply below
        rw [keys, shape]
        exact List.mem_cons_self
      rw [insertInto, if_pos first]

/-- Entries whose names ascend are the entries of the map that they make. -/
theorem entries_ofList_of_ascending
    {entries : List (String × Value)}
    (ascending : (entries.map Prod.fst).Pairwise (· < ·)) :
    (ofList entries).entries = entries := by
  induction entries with
  | nil => rfl
  | cons entry entries ih =>
      rw [List.map_cons, List.pairwise_cons] at ascending
      have rest := ih ascending.2
      have unfolded :
          ofList (entry :: entries) = (ofList entries).insertIfNew entry.1 entry.2 := rfl
      rw [unfolded, entries_insertIfNew_of_below, rest]
      intro key listed
      rw [keys, rest] at listed
      exact ascending.1 key listed

@[simp]
theorem ofList_entries (map : NameMap Value) : ofList map.entries = map :=
  ext (entries_ofList_of_ascending map.ascending)

end NameMap

end ModelLineage
