import ModelLineage.Schema.Model

/-!
# First declarations

Of several fields of one name on a list only the first counts.  Keeping the
first of each name commutes with every selection by name, so what is kept of two
lists one after the other is determined by what is kept of each: a model may
inherit the fields that its ancestors kept in place of all that they declare.
-/

namespace ModelLineage

/-- The fields of a list that are the first of their name. -/
def firstDeclarations (fields : List Field) : List Field :=
  fields.eraseDupsBy fun later earlier => later.name = earlier.name

theorem firstDeclarations_cons_eq_of_rest
    (field : Field)
    (fields : List Field) :
    firstDeclarations (field :: fields) =
      field :: firstDeclarations (fields.filter fun other => other.name ≠ field.name) := by
  rw [firstDeclarations, List.eraseDupsBy_cons]
  simp [firstDeclarations]

/-- Keeping the first of each name commutes with a selection by name. -/
theorem firstDeclarations_filter
    (keep : String → Bool)
    (fields : List Field) :
    firstDeclarations (fields.filter fun field => keep field.name) =
      (firstDeclarations fields).filter fun field => keep field.name := by
  -- The rest of a list is filtered before it is gone through, so the induction is on length.
  induction length : fields.length using Nat.strongRecOn generalizing fields with
  | ind count ih =>
      cases fields with
      | nil => rfl
      | cons field fields =>
          have shorter (select : Field → Bool) : (fields.filter select).length < count := by
            rw [← length, List.length_cons]
            exact Nat.lt_succ_of_le (List.length_filter_le select fields)
          have rest := ih _ (shorter fun other => other.name ≠ field.name) _ rfl
          rw [firstDeclarations_cons_eq_of_rest, List.filter_cons, List.filter_cons]
          split
          · rw [firstDeclarations_cons_eq_of_rest, ← rest]
            congr 2
            rw [List.filter_filter, List.filter_filter]
            exact List.filter_congr fun other _ => Bool.and_comm _ _
          · rename_i dropped
            rw [← rest, List.filter_filter]
            congr 1
            apply List.filter_congr
            intro other _
            by_cases same : other.name = field.name
            · rw [same, Bool.eq_false_iff.mpr dropped, Bool.false_and]
            · simp [same]

theorem firstDeclarations_cons
    (field : Field)
    (fields : List Field) :
    firstDeclarations (field :: fields) =
      field :: (firstDeclarations fields).filter fun other => other.name ≠ field.name := by
  rw [firstDeclarations_cons_eq_of_rest,
    ← firstDeclarations_filter fun name => name ≠ field.name]

/-- The first field of a name is kept. -/
@[simp]
theorem find?_firstDeclarations
    (name : String)
    (fields : List Field) :
    (firstDeclarations fields).find? (fun field => field.name = name) =
      fields.find? fun field => field.name = name := by
  induction fields with
  | nil => rfl
  | cons field fields ih =>
      rw [firstDeclarations_cons, List.find?_cons, List.find?_cons]
      split
      · rfl
      · rename_i other
        have differs : field.name ≠ name := by
          simpa using other
        rw [← ih, List.find?_filter]
        congr 1
        funext later
        by_cases same : later.name = name
        · simp [same, Ne.symm differs]
        · simp [same]

@[simp]
theorem mem_names_firstDeclarations
    {name : String} {fields : List Field} :
    name ∈ (firstDeclarations fields).map Field.name ↔ name ∈ fields.map Field.name := by
  have named : ∀ listed : List Field,
      name ∈ listed.map Field.name ↔
        (listed.find? fun field => field.name = name).isSome := by
    intro listed
    simp [List.find?_isSome]
  rw [named, named, find?_firstDeclarations]

theorem firstDeclarations_subset (fields : List Field) : firstDeclarations fields ⊆ fields := by
  induction fields with
  | nil => exact List.Subset.refl []
  | cons field fields ih =>
      rw [firstDeclarations_cons]
      exact List.cons_subset_cons field (List.Subset.trans List.filter_sublist.subset ih)

theorem nodup_names_firstDeclarations (fields : List Field) :
    ((firstDeclarations fields).map Field.name).Nodup := by
  induction fields with
  | nil => exact List.nodup_nil
  | cons field fields ih =>
      rw [firstDeclarations_cons, List.map_cons, List.nodup_cons]
      constructor
      · intro member
        rcases List.mem_map.mp member with ⟨other, kept, same⟩
        have differs := (List.mem_filter.mp kept).2
        simp [same] at differs
      · exact ih.sublist (List.filter_sublist.map Field.name)

/-- Where no name occurs twice, every field is kept. -/
theorem firstDeclarations_eq_self
    {fields : List Field}
    (distinct : (fields.map Field.name).Nodup) :
    firstDeclarations fields = fields := by
  induction fields with
  | nil => rfl
  | cons field fields ih =>
      rw [List.map_cons, List.nodup_cons] at distinct
      rw [firstDeclarations_cons, ih distinct.2]
      congr 1
      apply List.filter_eq_self.mpr
      intro other member
      have differs : other.name ≠ field.name := by
        intro same
        apply distinct.1
        rw [← same]
        exact List.mem_map_of_mem member
      simp [differs]

/-- Of two lists, the second adds the fields whose names the first lacks. -/
theorem firstDeclarations_append (first second : List Field) :
    firstDeclarations (first ++ second) =
      firstDeclarations first ++
        (firstDeclarations second).filter fun field => field.name ∉ first.map Field.name := by
  induction first with
  | nil =>
      symm
      apply List.filter_eq_self.mpr
      simp
  | cons field first ih =>
      rw [List.cons_append, firstDeclarations_cons, firstDeclarations_cons, ih,
        List.filter_append, List.filter_filter, List.cons_append]
      congr 2
      apply List.filter_congr
      intro other _
      rw [← Bool.decide_and]
      apply decide_eq_decide.mpr
      rw [List.map_cons, List.mem_cons, not_or]

/-- What is kept of two lists is determined by what is kept of each. -/
theorem firstDeclarations_append_congr
    {first first' second second' : List Field}
    (sameFirst : firstDeclarations first = firstDeclarations first')
    (sameSecond : firstDeclarations second = firstDeclarations second') :
    firstDeclarations (first ++ second) = firstDeclarations (first' ++ second') := by
  have sameNames : ∀ name, name ∈ first.map Field.name ↔ name ∈ first'.map Field.name := by
    intro name
    have kept : name ∈ (firstDeclarations first).map Field.name ↔ _ :=
      mem_names_firstDeclarations
    rw [← kept, sameFirst, mem_names_firstDeclarations]
  rw [firstDeclarations_append, firstDeclarations_append, sameFirst, sameSecond]
  congr 1
  apply List.filter_congr
  intro field _
  exact decide_eq_decide.mpr (not_congr (sameNames field.name))

@[simp]
theorem firstDeclarations_firstDeclarations (fields : List Field) :
    firstDeclarations (firstDeclarations fields) = firstDeclarations fields :=
  firstDeclarations_eq_self (nodup_names_firstDeclarations fields)

/-- A list adds nothing to another that has all its names. -/
theorem firstDeclarations_append_of_subset
    {first second : List Field}
    (covered : ∀ field ∈ second, field.name ∈ first.map Field.name) :
    firstDeclarations (first ++ second) = firstDeclarations first := by
  rw [firstDeclarations_append]
  apply List.append_right_eq_self.mpr
  apply List.filter_eq_nil_iff.mpr
  intro field kept known
  have listed : field.name ∈ second.map Field.name :=
    mem_names_firstDeclarations.mp (List.mem_map_of_mem kept)
  rcases List.mem_map.mp listed with ⟨other, member, same⟩
  have present := covered other member
  rw [same] at present
  exact of_decide_eq_true known present

end ModelLineage
