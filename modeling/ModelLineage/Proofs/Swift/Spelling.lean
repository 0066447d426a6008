import ModelLineage.Swift.Declaration

/-!
# What a spelling tells about a type

The literal spelling of a type is the stock spelling of the type with no list
marked as having unique items.  Every mark costs the stock spelling three
characters, so the two agree only where nothing is marked.

A spelling does not name the constructors of a type, and the name of a model may
look like any spelling whatever.  But a type is a chain of containers around one
leaf, and two types with the same model at the end of the chain can be told apart
level by level: how a container opens says which it is, and a name is shorter
than any container around it.  Only dates and instants, and addresses and binary
data, have one Swift name each.
-/

namespace ModelLineage

namespace Primitive

/-- One primitive for all those that share a Swift name. -/
def conflated : Primitive → Primitive
  | dateTime => date
  | uri => binary
  | other => other

theorem swiftName_eq_iff {name other : Primitive} :
    name.swiftName = other.swiftName ↔ name.conflated = other.conflated := by
  cases name <;> cases other <;> decide

/-- No primitive is spelled like a container, or like the entries of one. -/
theorem swiftName_ne_append
    {name : Primitive} {opening : String}
    (opens : opening ∈ ["Set<", "[", "[String: ", "String: "])
    (rest : String) :
    name.swiftName ≠ opening ++ rest := by
  intro same
  have spelled := congrArg String.toList same
  rw [String.toList_append] at spelled
  simp only [List.mem_cons, List.not_mem_nil, or_false] at opens
  rcases opens with rfl | rfl | rfl | rfl <;> cases name <;> simp [swiftName] at spelled

end Primitive

namespace FieldType

/-- A type with no list marked as having unique items. -/
def unmarked : FieldType → FieldType
  | primitive name => primitive name
  | reference model => reference model
  | list items _ => list items.unmarked false
  | map values => map values.unmarked

/-- How many lists in a type are marked as having unique items. -/
def marks : FieldType → Nat
  | primitive _ => 0
  | reference _ => 0
  | list items true => items.marks + 1
  | list items false => items.marks
  | map values => values.marks

/-- A type with one primitive for all those that share a Swift name. -/
def conflated : FieldType → FieldType
  | primitive name => primitive name.conflated
  | reference model => reference model
  | list items unique => list items.conflated unique
  | map values => map values.conflated

/-- What a container adds to the spelling of what it holds. -/
theorem length_enclosed
    {opening closing : String} {added : Nat}
    (adds : opening.length + closing.length = added)
    (inner : String) :
    (opening ++ inner ++ closing).length = inner.length + added := by
  rw [String.length_append, String.length_append]
  omega

/-! ## Marks -/

theorem literalDeclaration_eq_stockDeclaration (type : FieldType) :
    type.literalDeclaration = type.unmarked.stockDeclaration := by
  induction type with
  | primitive name => rfl
  | reference model => rfl
  | list items unique ih =>
      rw [literalDeclaration, ih]
      rfl
  | map values ih =>
      rw [literalDeclaration, ih]
      rfl

/-- `Set<` and `>` are three characters more than two brackets. -/
theorem length_stockDeclaration (type : FieldType) :
    type.stockDeclaration.length = type.literalDeclaration.length + 3 * type.marks := by
  have set : "Set<".length + ">".length = 5 := rfl
  have array : "[".length + "]".length = 2 := rfl
  have dictionary : "[String: ".length + "]".length = 10 := rfl
  induction type with
  | primitive name => rfl
  | reference model => rfl
  | list items unique ih =>
      cases unique with
      | true =>
          rw [stockDeclaration, literalDeclaration, marks, length_enclosed set,
            length_enclosed array, ih]
          omega
      | false =>
          rw [stockDeclaration, literalDeclaration, marks, length_enclosed array,
            length_enclosed array, ih]
          omega
  | map values ih =>
      rw [stockDeclaration, literalDeclaration, marks, length_enclosed dictionary,
        length_enclosed dictionary, ih]
      omega

theorem unmarked_eq_self {type : FieldType} (none : type.marks = 0) : type.unmarked = type := by
  induction type with
  | primitive name => rfl
  | reference model => rfl
  | list items unique ih =>
      cases unique with
      | true => cases none
      | false => rw [unmarked, ih none]
  | map values ih => rw [unmarked, ih none]

/--
The literal spelling is the stock spelling of the type without its marks.  The
stock spelling is longer by three characters for each mark, so the two are the
same exactly if there is none, and the literal spelling depends on no mark.
-/
theorem literalDeclaration_forgets_marks (type : FieldType) :
    type.literalDeclaration = type.unmarked.stockDeclaration ∧
      type.stockDeclaration.length = type.literalDeclaration.length + 3 * type.marks ∧
      (type.stockDeclaration = type.literalDeclaration ↔ type.marks = 0) ∧
      ∀ other : FieldType, other.unmarked = type.unmarked →
        other.literalDeclaration = type.literalDeclaration := by
  refine ⟨literalDeclaration_eq_stockDeclaration type, length_stockDeclaration type,
    ⟨?none, ?same⟩, ?unmarked⟩
  case none =>
    intro same
    have longer := length_stockDeclaration type
    rw [same] at longer
    omega
  case same =>
    intro none
    rw [literalDeclaration_eq_stockDeclaration, unmarked_eq_self none]
  case unmarked =>
    intro other same
    rw [literalDeclaration_eq_stockDeclaration, same, ← literalDeclaration_eq_stockDeclaration]

/-- Two types that differ in their marks alone, and a name that looks like a marked list. -/
theorem literalDeclaration_forgets_marks_nested :
    ∃ type other : FieldType,
      other.unmarked = type.unmarked ∧
        other.literalDeclaration = type.literalDeclaration ∧
        type.stockDeclaration.length = type.literalDeclaration.length + 6 ∧
        type.stockDeclaration ≠ type.literalDeclaration ∧
        other.stockDeclaration = other.literalDeclaration := by
  let type : FieldType := .map (.list (.list (.reference "Set<Tag>") true) true)
  let other : FieldType := .map (.list (.list (.reference "Set<Tag>") false) false)
  have alike : other.unmarked = type.unmarked := rfl
  rcases literalDeclaration_forgets_marks type with ⟨_, longer, agree, forgets⟩
  rcases literalDeclaration_forgets_marks other with ⟨_, _, agreeToo, _⟩
  exact ⟨type, other, alike, forgets other alike, longer, mt agree.mp (by decide),
    agreeToo.mpr rfl⟩

/-! ## Telling types apart -/

/-- The outermost level of a type as a number: a leaf, an array, a dictionary or a set. -/
def outermost : FieldType → Nat
  | primitive _ => 0
  | reference _ => 0
  | list _ false => 1
  | map _ => 2
  | list _ true => 3

/-- A model is spelled out in a type that refers to it, and a container takes more than that. -/
theorem length_add_outermost_le
    {type : FieldType} {model : String}
    (refers : type.target? = some model) :
    model.length + type.outermost ≤ type.stockDeclaration.length := by
  have set : "Set<".length + ">".length = 5 := rfl
  have array : "[".length + "]".length = 2 := rfl
  have dictionary : "[String: ".length + "]".length = 10 := rfl
  induction type with
  | primitive name => cases refers
  | reference other =>
      cases refers
      exact Nat.le_refl _
  | list items unique ih =>
      have inner := ih refers
      cases unique with
      | true =>
          rw [stockDeclaration, length_enclosed set, outermost]
          omega
      | false =>
          rw [stockDeclaration, length_enclosed array, outermost]
          omega
  | map values ih =>
      have inner := ih refers
      rw [stockDeclaration, length_enclosed dictionary, outermost]
      omega

/-- What stands in an array is not spelled like the entries of a dictionary. -/
theorem stockDeclaration_ne_entries
    {items values : FieldType}
    (sameTarget : items.target? = values.target?) :
    items.stockDeclaration ≠ "String: " ++ values.stockDeclaration := by
  intro same
  cases items with
  | primitive name => exact Primitive.swiftName_ne_append (by decide) _ same
  | reference model =>
      have inside := length_add_outermost_le sameTarget.symm
      have outside := congrArg String.length same
      have added : "String: ".length = 8 := rfl
      rw [stockDeclaration, String.length_append] at outside
      omega
  | list items unique =>
      have spelled := congrArg String.toList same
      cases unique <;> simp [stockDeclaration, String.toList_append] at spelled
  | map values =>
      have spelled := congrArg String.toList same
      simp [stockDeclaration, String.toList_append] at spelled

theorem stockDeclaration_array_ne_dictionary
    {items values : FieldType}
    (sameTarget : (list items false).target? = (map values).target?) :
    (list items false).stockDeclaration ≠ (map values).stockDeclaration := by
  intro same
  have opening : "[String: " = "[" ++ "String: " := rfl
  rw [stockDeclaration, stockDeclaration, String.append_left_inj, opening,
    String.append_assoc, String.append_right_inj] at same
  have sameInner : items.target? = values.target? := sameTarget
  exact stockDeclaration_ne_entries sameInner same

/-- Types with the same model at the end are not spelled alike if they open differently. -/
theorem stockDeclaration_ne_of_outermost_lt
    {type other : FieldType}
    (sameTarget : type.target? = other.target?)
    (below : type.outermost < other.outermost) :
    type.stockDeclaration ≠ other.stockDeclaration := by
  intro same
  cases type with
  | primitive name =>
      cases other with
      | primitive name' => cases below
      | reference model => cases sameTarget
      | list items unique =>
          cases unique <;> rw [stockDeclaration, stockDeclaration, String.append_assoc] at same
          all_goals exact Primitive.swiftName_ne_append (by decide) _ same
      | map values =>
          rw [stockDeclaration, stockDeclaration, String.append_assoc] at same
          exact Primitive.swiftName_ne_append (by decide) _ same
  | reference model =>
      have inside := length_add_outermost_le sameTarget.symm
      rw [← same, stockDeclaration] at inside
      omega
  | list items unique =>
      have spelled := congrArg String.toList same
      match unique, other with
      | false, map values => exact stockDeclaration_array_ne_dictionary sameTarget same
      | false, list others true => simp [stockDeclaration, String.toList_append] at spelled
      | true, list others true => simp [outermost] at below
  | map values =>
      have spelled := congrArg String.toList same
      match other with
      | list others true => simp [stockDeclaration, String.toList_append] at spelled

theorem outermost_eq_of_stockDeclaration_eq
    {type other : FieldType}
    (sameTarget : type.target? = other.target?)
    (same : type.stockDeclaration = other.stockDeclaration) :
    type.outermost = other.outermost := by
  rcases Nat.lt_trichotomy type.outermost other.outermost with below | level | above
  · exact absurd same (stockDeclaration_ne_of_outermost_lt sameTarget below)
  · exact level
  · exact absurd same.symm (stockDeclaration_ne_of_outermost_lt sameTarget.symm above)

@[simp]
theorem stockDeclaration_list_inj {items others : FieldType} {unique : Bool} :
    (list items unique).stockDeclaration = (list others unique).stockDeclaration ↔
      items.stockDeclaration = others.stockDeclaration := by
  cases unique <;>
    rw [stockDeclaration, stockDeclaration, String.append_left_inj, String.append_right_inj]

@[simp]
theorem stockDeclaration_map_inj {values others : FieldType} :
    (map values).stockDeclaration = (map others).stockDeclaration ↔
      values.stockDeclaration = others.stockDeclaration := by
  rw [stockDeclaration, stockDeclaration, String.append_left_inj, String.append_right_inj]

theorem conflated_eq_of_stockDeclaration_eq
    {type other : FieldType}
    (sameTarget : type.target? = other.target?)
    (same : type.stockDeclaration = other.stockDeclaration) :
    type.conflated = other.conflated := by
  induction type generalizing other with
  | primitive name =>
      have level := outermost_eq_of_stockDeclaration_eq sameTarget same
      match other with
      | primitive name' => exact congrArg primitive (Primitive.swiftName_eq_iff.mp same)
  | reference model =>
      have level := outermost_eq_of_stockDeclaration_eq sameTarget same
      match other with
      | reference model' => exact congrArg reference same
  | list items unique ih =>
      have level := outermost_eq_of_stockDeclaration_eq sameTarget same
      match unique, other with
      | true, list others true =>
          have sameInner : items.target? = others.target? := sameTarget
          rw [conflated, conflated, ih sameInner (stockDeclaration_list_inj.mp same)]
      | false, list others false =>
          have sameInner : items.target? = others.target? := sameTarget
          rw [conflated, conflated, ih sameInner (stockDeclaration_list_inj.mp same)]
  | map values ih =>
      have level := outermost_eq_of_stockDeclaration_eq sameTarget same
      match other with
      | map others =>
          have sameInner : values.target? = others.target? := sameTarget
          rw [conflated, conflated, ih sameInner (stockDeclaration_map_inj.mp same)]

/-- Types that are conflated are spelled alike. -/
theorem stockDeclaration_conflated (type : FieldType) :
    type.conflated.stockDeclaration = type.stockDeclaration := by
  induction type with
  | primitive name => cases name <;> rfl
  | reference model => rfl
  | list items unique ih => exact stockDeclaration_list_inj.mpr ih
  | map values ih => exact stockDeclaration_map_inj.mpr ih

/-- Types with the same model at the end are spelled alike exactly if they are conflated. -/
theorem stockDeclaration_eq_iff
    {type other : FieldType}
    (sameTarget : type.target? = other.target?) :
    type.stockDeclaration = other.stockDeclaration ↔ type.conflated = other.conflated := by
  constructor
  · exact conflated_eq_of_stockDeclaration_eq sameTarget
  · intro same
    rw [← stockDeclaration_conflated type, same, stockDeclaration_conflated]

@[simp]
theorem target?_unmarked (type : FieldType) : type.unmarked.target? = type.target? := by
  induction type with
  | primitive name => rfl
  | reference model => rfl
  | list items unique ih => exact ih
  | map values ih => exact ih

/--
For two types that refer to the same model, or to none, the literal spellings are
the same exactly if the types without their marks are conflated, and the stock
spellings are the same exactly if the types as they are are conflated.
-/
theorem declarations_eq_iff_conflated
    {type other : FieldType}
    (sameTarget : type.target? = other.target?) :
    (type.literalDeclaration = other.literalDeclaration ↔
        type.unmarked.conflated = other.unmarked.conflated) ∧
      (type.stockDeclaration = other.stockDeclaration ↔ type.conflated = other.conflated) := by
  refine ⟨?literal, stockDeclaration_eq_iff sameTarget⟩
  case literal =>
    rw [literalDeclaration_eq_stockDeclaration, literalDeclaration_eq_stockDeclaration]
    apply stockDeclaration_eq_iff
    rw [target?_unmarked, target?_unmarked, sameTarget]

/-- Dates and instants in lists marked at different depths, and a name that opens like a map. -/
theorem declarations_eq_iff_conflated_nested :
    ∃ dates instants tags entries : FieldType,
      dates.target? = instants.target? ∧ tags.target? = entries.target? ∧
        dates.literalDeclaration = instants.literalDeclaration ∧
        dates.stockDeclaration ≠ instants.stockDeclaration ∧
        tags.literalDeclaration ≠ entries.literalDeclaration := by
  let dates : FieldType := .list (.list (.primitive .date) true) false
  let instants : FieldType := .list (.list (.primitive .dateTime) false) true
  let tags : FieldType := .list (.reference "String: Tag") false
  let entries : FieldType := .map (.reference "String: Tag")
  have noTarget : dates.target? = instants.target? := rfl
  have oneTarget : tags.target? = entries.target? := rfl
  rcases declarations_eq_iff_conflated noTarget with ⟨literal, stock⟩
  rcases declarations_eq_iff_conflated oneTarget with ⟨literalTags, _⟩
  exact ⟨dates, instants, tags, entries, noTarget, oneTarget, literal.mpr rfl,
    mt stock.mp (by decide), mt literalTags.mp (by decide)⟩

end FieldType

end ModelLineage
