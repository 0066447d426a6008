import Mathlib.Data.List.Nodup
import ModelLineage.Proofs.Names.Lookup
import ModelLineage.Schema.Model

/-!
# Required marks after one pass

Reconciling goes through the fields once and compares each with the names that are
required so far.  A later field may make a name required that an earlier one bears
without a flag, and nobody goes back to the earlier one.  So flags and required set
agree afterwards exactly if every name that becomes required on the way is flagged
where it first stands.  Where field names are distinct there is no earlier field of
the name; where they are not, a second pass settles what the first has left.
-/

namespace ModelLineage

namespace Model

variable {known : NameSet} {field : Field} {fields later : List Field} {name : String}

/-! ## One field after the other -/

theorem reconcileFields_of_mem
    (listed : field.name ∈ known) :
    reconcileFields known (field :: later) =
      ({ field with required := true } :: (reconcileFields known later).1,
        (reconcileFields known later).2) := by
  rw [reconcileFields, if_pos listed]

theorem reconcileFields_of_not_mem
    (unlisted : field.name ∉ known) :
    reconcileFields known (field :: later) =
      (field ::
          (reconcileFields (if field.required then known.insert field.name else known) later).1,
        (reconcileFields
          (if field.required then known.insert field.name else known) later).2) := by
  rw [reconcileFields, if_neg unlisted]

/-- The names that are required once a field has been counted. -/
def counting (known : NameSet) (field : Field) : NameSet :=
  if field.required then known.insert field.name else known

@[simp]
theorem mem_counting :
    name ∈ counting known field ↔ name ∈ known ∨ field.required = true ∧ field.name = name := by
  rw [counting]
  split
  · rename_i flagged
    rw [NameSet.mem_insert, or_comm, eq_comm]
    simp [flagged]
  · rename_i unflagged
    simp [unflagged]

/-- A field is flagged afterwards if its name is required once the field itself is counted. -/
theorem reconcileFields_cons (known : NameSet) (field : Field) (later : List Field) :
    reconcileFields known (field :: later) =
      ({ field with required := decide (field.name ∈ counting known field) } ::
          (reconcileFields (counting known field) later).1,
        (reconcileFields (counting known field) later).2) := by
  by_cases listed : field.name ∈ known
  · have same : counting known field = known := by
      apply NameSet.ext_mem
      intro name
      rw [mem_counting]
      exact or_iff_left_of_imp fun ⟨_, isField⟩ => isField ▸ listed
    simp only [reconcileFields_of_mem listed, same, listed, decide_true]
  · have flag : decide (field.name ∈ counting known field) = field.required := by
      simp [listed]
    rw [reconcileFields_of_not_mem listed, flag]
    rfl

/-- Flags that agree with the required set are settled. -/
theorem reconcileFields_of_flagged
    (flagged : ∀ field ∈ fields, field.required = true ↔ field.name ∈ known) :
    reconcileFields known fields = (fields, known) := by
  induction fields with
  | nil => rfl
  | cons field fields ih =>
      have first := flagged field List.mem_cons_self
      have rest := ih fun other listed => flagged other (List.mem_cons_of_mem _ listed)
      by_cases listed : field.name ∈ known
      · rw [reconcileFields_of_mem listed, rest]
        rcases field with ⟨name, type, required⟩
        cases first.mpr listed
        rfl
      · have unflagged : ¬ field.required = true := fun flag => listed (first.mp flag)
        rw [reconcileFields_of_not_mem listed, if_neg unflagged, rest]

/-- Settling changes neither the names nor the types of fields. -/
theorem map_reconcileFields
    {Part : Type} {part : Field → Part}
    (unmarked : ∀ field, part { field with required := true } = part field)
    (known : NameSet)
    (fields : List Field) :
    (reconcileFields known fields).1.map part = fields.map part := by
  induction fields generalizing known with
  | nil => rfl
  | cons field fields ih =>
      by_cases listed : field.name ∈ known
      · rw [reconcileFields_of_mem listed, List.map_cons, List.map_cons, unmarked, ih]
      · rw [reconcileFields_of_not_mem listed, List.map_cons, List.map_cons, ih]

/-- A set of names and the flags of some fields together demand a name. -/
def Demanded (known : NameSet) (fields : List Field) (name : String) : Prop :=
  name ∈ known ∨ ∃ field ∈ fields, field.required = true ∧ field.name = name

instance (known : NameSet) (fields : List Field) (name : String) :
    Decidable (Demanded known fields name) :=
  inferInstanceAs
    (Decidable (name ∈ known ∨ ∃ field ∈ fields, field.required = true ∧ field.name = name))

/-- The names that are required in the end are those known before and those that were flagged. -/
theorem mem_reconcileFields_iff :
    name ∈ (reconcileFields known fields).2 ↔
      name ∈ known ∨ ∃ field ∈ fields, field.required = true ∧ field.name = name := by
  induction fields generalizing known with
  | nil => simp [reconcileFields]
  | cons field fields ih =>
      rw [reconcileFields_cons, ih, mem_counting, or_assoc, List.exists_mem_cons_iff]

/-- Each flag tells whether the name was required when its field had just been passed. -/
theorem fst_reconcileFields_eq_mapIdx (known : NameSet) (fields : List Field) :
    (reconcileFields known fields).1 =
      fields.mapIdx fun position field =>
        { field with
          required := decide (Demanded known (fields.take (position + 1)) field.name) } := by
  simp only [Demanded, ← mem_reconcileFields_iff]
  induction fields generalizing known with
  | nil => rfl
  | cons field later ih =>
      rw [List.mapIdx_cons, reconcileFields_cons]
      simp only [List.take_succ_cons, reconcileFields_cons, ih]
      rfl

/-! ## Distinct names -/

/-- Where names are distinct, a field is flagged in the end if it was or if its name was known. -/
theorem fields_reconcileFields
    (distinct : (fields.map Field.name).Nodup) :
    (reconcileFields known fields).1 =
      fields.map fun field =>
        { field with required := field.required || decide (field.name ∈ known) } := by
  induction fields generalizing known with
  | nil => rfl
  | cons field fields ih =>
      rw [List.map_cons, List.nodup_cons] at distinct
      rw [List.map_cons, reconcileFields_cons, ih distinct.2]
      refine congrArg₂ List.cons ?_ (List.map_congr_left ?_)
      · simp [Bool.or_comm]
      · -- What the field may have made known is the name of no later one.
        intro other later
        have differs : field.name ≠ other.name := by
          intro same
          apply distinct.1
          rw [same]
          exact List.mem_map_of_mem later
        simp [differs]

/-- Where names are distinct, flags and required set agree in the end. -/
theorem flagged_reconcileFields
    (distinct : (fields.map Field.name).Nodup) :
    ∀ field ∈ (reconcileFields known fields).1,
      field.required = true ↔ field.name ∈ (reconcileFields known fields).2 := by
  rw [fields_reconcileFields distinct]
  intro image listed
  rcases List.mem_map.mp listed with ⟨field, member, rfl⟩
  rw [mem_reconcileFields_iff, Bool.or_eq_true, decide_eq_true_iff, or_comm]
  apply or_congr_right
  constructor
  · intro flag
    exact ⟨field, member, flag, rfl⟩
  · rintro ⟨other, otherMember, flag, same⟩
    rwa [← List.inj_on_of_nodup_map distinct otherMember member same]

/-! ## Agreement after one pass -/

/-- The flag of every field says the same as the required set. -/
def Agrees (model : Model) : Prop :=
  ∀ field ∈ model.fields, field.required = true ↔ field.name ∈ model.required

instance (model : Model) : Decidable model.Agrees :=
  inferInstanceAs
    (Decidable (∀ field ∈ model.fields, field.required = true ↔ field.name ∈ model.required))

/-- A name that a flag makes required is in the required set or flagged where it first stands. -/
def FlaggedFromFirst (model : Model) : Prop :=
  ∀ field ∈ model.fields, field.required = true →
    field.name ∈ model.required ∨
      ∃ first, model.field? field.name = some first ∧ first.required = true

variable {model : Model}

theorem mem_required_reconcileRequired :
    name ∈ model.reconcileRequired.required ↔ Demanded model.required model.fields name :=
  mem_reconcileFields_iff

/-- The fields with their flags as one pass leaves them. -/
theorem fields_reconcileRequired :
    model.reconcileRequired.fields =
      model.fields.mapIdx fun position field =>
        { field with
          required := decide
            (Demanded model.required (model.fields.take (position + 1)) field.name) } :=
  fst_reconcileFields_eq_mapIdx model.required model.fields

/-- No flag is set beside the required set. -/
theorem mem_required_of_flagged
    (listed : field ∈ model.reconcileRequired.fields)
    (flagged : field.required = true) :
    field.name ∈ model.reconcileRequired.required := by
  rw [fields_reconcileRequired] at listed
  rcases List.mem_mapIdx.mp listed with ⟨position, within, rfl⟩
  apply mem_required_reconcileRequired.mpr
  rcases of_decide_eq_true flagged with before | ⟨marked, passed, flag, same⟩
  · exact .inl before
  · exact .inr ⟨marked, List.mem_of_mem_take passed, flag, same⟩

theorem agrees_reconcileRequired
    (fromFirst : model.FlaggedFromFirst) :
    model.reconcileRequired.Agrees := by
  intro settled listed
  refine ⟨mem_required_of_flagged listed, ?_⟩
  rw [fields_reconcileRequired] at listed
  rcases List.mem_mapIdx.mp listed with ⟨position, within, rfl⟩
  intro demanded
  apply decide_eq_true
  rcases mem_required_reconcileRequired.mp demanded with before | ⟨field, member, flag, same⟩
  · exact .inl before
  · rcases fromFirst field member flag with before | ⟨first, found, firstFlag⟩
    · exact .inl (same ▸ before)
    · -- The first field of the name stands no later than the one that is looked at.
      rcases List.find?_eq_some_iff_getElem.mp found with ⟨named, start, startWithin, is, unnamed⟩
      have reached : start ≤ position := by
        apply Nat.le_of_not_lt
        intro earlier
        have differs := unnamed position earlier
        simp [same] at differs
      refine .inr ⟨first, ?_, firstFlag, (of_decide_eq_true named).trans same⟩
      exact List.mem_take_iff_getElem.mpr
        ⟨start, Nat.lt_min.mpr ⟨Nat.lt_succ_of_le reached, startWithin⟩, is⟩

theorem flaggedFromFirst_of_agrees
    (agrees : model.reconcileRequired.Agrees) :
    model.FlaggedFromFirst := by
  intro field member flag
  have named : (model.field? field.name).isSome := by
    rw [field?, List.find?_isSome]
    exact ⟨field, member, decide_eq_true rfl⟩
  rcases Option.isSome_iff_exists.mp named with ⟨first, found⟩
  rcases List.find?_eq_some_iff_getElem.mp found with ⟨sameName, start, within, rfl, unnamed⟩
  have same : model.fields[start].name = field.name := of_decide_eq_true sameName
  have settled :
      { model.fields[start] with
          required := decide
            (Demanded model.required (model.fields.take (start + 1)) model.fields[start].name) } ∈
        model.reconcileRequired.fields := by
    rw [fields_reconcileRequired]
    exact List.mem_mapIdx.mpr ⟨start, within, rfl⟩
  have demanded : model.fields[start].name ∈ model.reconcileRequired.required :=
    mem_required_reconcileRequired.mpr (.inr ⟨field, member, flag, same.symm⟩)
  rcases of_decide_eq_true ((agrees _ settled).mpr demanded) with
    before | ⟨marked, passed, markedFlag, markedName⟩
  · exact .inl (same ▸ before)
  · -- Before the first field of the name no field bears it.
    rcases List.mem_take_iff_getElem.mp passed with ⟨place, bound, rfl⟩
    have notBefore : ¬ place < start := by
      intro earlier
      have differs := unnamed place earlier
      simp [markedName.trans same] at differs
    have here : place = start :=
      Nat.le_antisymm (Nat.le_of_lt_succ (Nat.lt_min.mp bound).1) (Nat.le_of_not_lt notBefore)
    subst here
    exact .inr ⟨_, found, markedFlag⟩

theorem agrees_reconcileRequired_iff :
    model.reconcileRequired.Agrees ↔ model.FlaggedFromFirst :=
  ⟨flaggedFromFirst_of_agrees, agrees_reconcileRequired⟩

/-! ## A second pass -/

theorem reconcileRequired_of_agrees (agrees : model.Agrees) : model.reconcileRequired = model := by
  rw [reconcileRequired, reconcileFields_of_flagged agrees]

theorem agrees_reconcileRequired_reconcileRequired (model : Model) :
    model.reconcileRequired.reconcileRequired.Agrees :=
  agrees_reconcileRequired fun _ listed flagged => .inl (mem_required_of_flagged listed flagged)

/--
One pass leaves name, ancestors, and the names, types and order of the fields, and
the required set becomes the old one with the names of all flagged fields.  Flags
and required set agree exactly if each name is flagged from its first field on; only
then a second pass changes nothing, but after two they always agree.
-/
theorem reconcileRequired_agrees_iff (model : Model) :
    model.reconcileRequired.name = model.name ∧
      model.reconcileRequired.ancestors = model.ancestors ∧
      model.reconcileRequired.fields =
        (model.fields.mapIdx fun position field =>
          { field with
            required := decide
              (Demanded model.required (model.fields.take (position + 1)) field.name) }) ∧
      (∀ name : String, name ∈ model.reconcileRequired.required ↔
        Demanded model.required model.fields name) ∧
      (model.reconcileRequired.Agrees ↔ model.FlaggedFromFirst) ∧
      (model.reconcileRequired.reconcileRequired = model.reconcileRequired ↔
        model.FlaggedFromFirst) ∧
      model.reconcileRequired.reconcileRequired.Agrees := by
  have twice := agrees_reconcileRequired_reconcileRequired model
  refine ⟨rfl, rfl, fields_reconcileRequired, fun _ => mem_required_reconcileRequired,
    agrees_reconcileRequired_iff, ?_, twice⟩
  rw [← agrees_reconcileRequired_iff]
  constructor
  · intro unchanged
    rwa [unchanged] at twice
  · exact reconcileRequired_of_agrees

/-- A name that is flagged where it comes again. -/
def relabelled : Model :=
  ⟨"Pet", [⟨"tag", .primitive .string, false⟩, ⟨"tag", .primitive .int32, true⟩], ∅, []⟩

/-- One pass does not make flags and required set agree on every model. -/
theorem exists_reconcileRequired_disagrees :
    ¬ relabelled.reconcileRequired.Agrees ∧
      relabelled.reconcileRequired.fields.map Field.required = [false, true] ∧
      relabelled.reconcileRequired.required = .ofList ["tag"] ∧
      relabelled.reconcileRequired.reconcileRequired ≠ relabelled.reconcileRequired := by
  decide

end Model

end ModelLineage
