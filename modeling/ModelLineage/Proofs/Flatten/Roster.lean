import ModelLineage.Flatten.FieldRoster
import ModelLineage.Proofs.Flatten.FirstDeclarations
import Std.Data.TreeMap.Lemmas

/-!
# Rosters by what they list

A roster keeps its fields apart from the positions of their names.  As long as
the two agree, looking up a name finds the field of that name on the list, and
offering fields to a roster lists the first declarations of what the roster had
and what it was offered.
-/

namespace ModelLineage

namespace FieldRoster

/-- The positions of a roster are those of its fields: one position a name. -/
def Indexed (roster : FieldRoster) : Prop :=
  ∀ (name : String) (position : Nat),
    roster.positions[name]? = some position ↔
      ∃ field : Field, roster.fields[position]? = some field ∧ field.name = name

variable {roster : FieldRoster}

theorem indexed_empty : (∅ : FieldRoster).Indexed := by
  intro name position
  constructor
  · intro found
    have absent : (∅ : Std.TreeMap String Nat)[name]? = none :=
      Std.TreeMap.getElem?_emptyc
    exact absurd (absent.symm.trans found) (by simp)
  · rintro ⟨field, listed, _⟩
    have absent : (#[] : Array Field)[position]? = none := by simp
    exact absurd (absent.symm.trans listed) (by simp)

theorem Indexed.nodup_names (indexed : roster.Indexed) :
    (roster.toList.map Field.name).Nodup := by
  refine List.pairwise_map.mpr (List.pairwise_iff_getElem.mpr ?_)
  intro first second firstBound secondBound before same
  have firstFound :
      roster.positions[(roster.toList[first]).name]? = some first := by
    refine (indexed _ _).mpr ⟨roster.toList[first], ?_, rfl⟩
    simp only [← Array.getElem?_toList]
    exact List.getElem?_eq_getElem firstBound
  have secondFound :
      roster.positions[(roster.toList[first]).name]? = some second := by
    refine (indexed _ _).mpr ⟨roster.toList[second], ?_, same.symm⟩
    simp only [← Array.getElem?_toList]
    exact List.getElem?_eq_getElem secondBound
  have equal : first = second :=
    Option.some.inj (firstFound.symm.trans secondFound)
  exact Nat.ne_of_lt before equal

/-- The holder of a name is the field of that name. -/
theorem Indexed.holder?_eq
    (indexed : roster.Indexed)
    (name : String) :
    roster.holder? name = roster.toList.find? fun field => field.name = name := by
  cases found : roster.toList.find? fun field => field.name = name with
  | none =>
      have absent : roster.positions[name]? = none := by
        apply Option.eq_none_iff_forall_ne_some.mpr
        intro position known
        rcases (indexed name position).mp known with ⟨field, listed, named⟩
        rw [← Array.getElem?_toList] at listed
        have other := List.find?_eq_none.mp found field (List.mem_of_getElem? listed)
        exact other (decide_eq_true named)
      rw [holder?, absent]
      rfl
  | some field =>
      have named : field.name = name := by
        simpa using List.find?_some found
      rcases List.mem_iff_getElem?.mp (List.mem_of_find?_eq_some found) with ⟨position, listed⟩
      have stands : roster.fields[position]? = some field := by
        rw [← Array.getElem?_toList]
        exact listed
      have known : roster.positions[name]? = some position :=
        (indexed name position).mpr ⟨field, stands, named⟩
      rw [holder?, known]
      exact stands

theorem Indexed.holder?_isSome_iff
    (indexed : roster.Indexed)
    {name : String} :
    (roster.holder? name).isSome ↔ name ∈ roster.toList.map Field.name := by
  rw [indexed.holder?_eq, List.find?_isSome]
  simp

@[simp]
theorem toList_append (field : Field) :
    (roster.append field).toList = roster.toList ++ [field] := by
  simp [append, toList]

theorem Indexed.append
    (indexed : roster.Indexed)
    {field : Field}
    (free : roster.holder? field.name = none) :
    (roster.append field).Indexed := by
  have unheld : ∀ (position : Nat) (other : Field),
      roster.fields[position]? = some other → other.name ≠ field.name := by
    intro position other listed same
    have member : other ∈ roster.toList := by
      rw [← Array.getElem?_toList] at listed
      exact List.mem_of_getElem? listed
    rw [indexed.holder?_eq, List.find?_eq_none] at free
    exact free other member (decide_eq_true same)
  intro name position
  simp only [FieldRoster.append, Std.TreeMap.getElem?_insert, Array.getElem?_push]
  by_cases same : compare field.name name = .eq
  · have named : field.name = name := Std.LawfulEqCmp.eq_of_compare same
    rw [if_pos same]
    constructor
    · intro last
      cases last
      exact ⟨field, if_pos rfl, named⟩
    · rintro ⟨other, listed, otherNamed⟩
      split at listed
      · rename_i last
        rw [last]
      · exact absurd (otherNamed.trans named.symm) (unheld position other listed)
  · rw [if_neg same, indexed name position]
    constructor
    · rintro ⟨other, listed, otherNamed⟩
      refine ⟨other, ?_, otherNamed⟩
      have within : position < roster.fields.size :=
        (Array.getElem?_eq_some_iff.mp listed).1
      rw [if_neg (Nat.ne_of_lt within)]
      exact listed
    · rintro ⟨other, listed, otherNamed⟩
      split at listed
      · cases listed
        rw [otherNamed] at same
        exact absurd Std.ReflCmp.compare_self same
      · exact ⟨other, listed, otherNamed⟩

theorem Indexed.offer
    (indexed : roster.Indexed)
    (field : Field) :
    (roster.offer field).Indexed := by
  rw [FieldRoster.offer]
  split
  · exact indexed
  · rename_i free
    exact indexed.append (Option.not_isSome_iff_eq_none.mp free)

/-- Offering a field lists it unless its name is listed. -/
theorem Indexed.toList_offer
    (indexed : roster.Indexed)
    (field : Field) :
    (roster.offer field).toList = firstDeclarations (roster.toList ++ [field]) := by
  have kept : firstDeclarations roster.toList = roster.toList :=
    firstDeclarations_eq_self indexed.nodup_names
  rw [FieldRoster.offer]
  split
  · rename_i taken
    rw [firstDeclarations_append_of_subset, kept]
    intro other member
    rw [List.mem_singleton.mp member]
    exact indexed.holder?_isSome_iff.mp taken
  · rename_i free
    rw [toList_append, firstDeclarations_append, kept]
    congr 1
    symm
    apply List.filter_eq_self.mpr
    intro other member
    rw [List.mem_singleton.mp member]
    exact decide_eq_true fun listed => free (indexed.holder?_isSome_iff.mpr listed)

theorem Indexed.offerAll
    (indexed : roster.Indexed)
    (fields : List Field) :
    (roster.offerAll fields).Indexed := by
  induction fields generalizing roster with
  | nil => exact indexed
  | cons field fields ih => exact ih (indexed.offer field)

/-- Offering fields lists the first declarations of what was and what is offered. -/
theorem Indexed.toList_offerAll
    (indexed : roster.Indexed)
    (fields : List Field) :
    (roster.offerAll fields).toList = firstDeclarations (roster.toList ++ fields) := by
  induction fields generalizing roster with
  | nil =>
      rw [List.append_nil, firstDeclarations_eq_self indexed.nodup_names]
      rfl
  | cons field fields ih =>
      have unfolded :
          roster.offerAll (field :: fields) = (roster.offer field).offerAll fields := rfl
      have reordered :
          roster.toList ++ field :: fields = (roster.toList ++ [field]) ++ fields := by
        simp
      rw [unfolded, ih (indexed.offer field), indexed.toList_offer field, reordered]
      exact firstDeclarations_append_congr (firstDeclarations_firstDeclarations _) rfl

end FieldRoster

end ModelLineage
