import ModelLineage.GraphDocument.Loading
import ModelLineage.Proofs.Schema.RequiredMarks

/-!
# Sound graphs

A graph is sound if its models are stored under their own names, have distinct
field names and require only names of their fields, and if the flags of the
fields say the same as the required sets.  Settling a graph makes it sound, and
leaves a sound graph as it is.
-/

namespace ModelLineage

namespace Model

/-- The field names are distinct, and flags and required set agree on some of them. -/
structure Sound (model : Model) : Prop where
  distinct : model.fieldNames.Nodup
  declared : ∀ name ∈ model.required, name ∈ model.fieldNames
  flagged : ∀ field ∈ model.fields, field.required = true ↔ field.name ∈ model.required

instance (model : Model) : Decidable model.Sound :=
  decidable_of_iff
    (model.fieldNames.Nodup ∧
      (∀ name ∈ model.required.toList, name ∈ model.fieldNames) ∧
        ∀ field ∈ model.fields, field.required = true ↔ field.name ∈ model.required)
    ⟨fun ⟨distinct, declared, flagged⟩ => ⟨distinct, declared, flagged⟩,
      fun sound => ⟨sound.distinct, sound.declared, sound.flagged⟩⟩

theorem firstRepeated?_eq_none_iff {seen names : List String} :
    firstRepeated? seen names = none ↔ names.Nodup ∧ ∀ name ∈ names, name ∉ seen := by
  induction names generalizing seen with
  | nil => simp [firstRepeated?]
  | cons name names ih =>
      rw [firstRepeated?, List.nodup_cons, List.forall_mem_cons]
      by_cases known : name ∈ seen
      · simp [known]
      · rw [if_neg known, ih]
        constructor
        · rintro ⟨distinct, unseen⟩
          refine ⟨⟨?_, distinct⟩, known, ?_⟩
          · intro later
            exact unseen name later List.mem_cons_self
          · intro other listed seenBefore
            exact unseen other listed (List.mem_cons_of_mem _ seenBefore)
        · rintro ⟨⟨fresh, distinct⟩, _, unseen⟩
          refine ⟨distinct, ?_⟩
          intro other listed seenNow
          rcases List.mem_cons.mp seenNow with rfl | before
          · exact fresh listed
          · exact unseen other listed before

/-- A model has no fault exactly if its name, its field names and its required set have none. -/
theorem fault?_eq_none_iff {key : String} {model : Model} :
    model.fault? key = none ↔
      (model.name = "" ∨ model.name = key) ∧
        model.fieldNames.Nodup ∧ ∀ name ∈ model.required, name ∈ model.fieldNames := by
  have distinct :
      firstRepeated? [] model.fieldNames = none ↔ model.fieldNames.Nodup := by
    rw [firstRepeated?_eq_none_iff]
    simp
  have declared :
      (model.required.toList.find? fun name => name ∉ model.fieldNames) = none ↔
        ∀ name ∈ model.required, name ∈ model.fieldNames := by
    rw [List.find?_eq_none]
    simp [NameSet.mem_iff]
  rw [fault?, ← distinct, ← declared]
  by_cases named : model.name ≠ "" ∧ model.name ≠ key
  · rw [if_pos named]
    simp [named.1, named.2]
  · have either : model.name = "" ∨ model.name = key := by
      by_cases empty : model.name = ""
      · exact .inl empty
      · exact .inr (Decidable.not_not.mp fun other => named ⟨empty, other⟩)
    rw [if_neg named]
    cases firstRepeated? [] model.fieldNames with
    | some field => simp
    | none =>
        cases model.required.toList.find? fun name => name ∉ model.fieldNames with
        | some field => simp
        | none => simp [either]

/-! ## Settling -/

/-- Settling leaves the type of every field as it was. -/
theorem exists_type_eq_of_mem_settled
    {model : Model} {key : String} {field : Field}
    (listed : field ∈ (model.settled key).fields) :
    ∃ source ∈ model.fields, source.type = field.type := by
  have types : (model.settled key).fields.map Field.type = model.fields.map Field.type :=
    map_reconcileFields (fun _ => rfl) model.required model.fields
  have typed : field.type ∈ model.fields.map Field.type := by
    rw [← types]
    exact List.mem_map_of_mem listed
  exact List.mem_map.mp typed

theorem settled_of_sound
    {model : Model} {key : String}
    (sound : model.Sound)
    (named : model.name = key) :
    model.settled key = model := by
  have settled := reconcileFields_of_flagged sound.flagged
  cases model
  cases named
  simp only [Model.settled, reconcileRequired, settled]

theorem sound_settled
    {model : Model} {key : String}
    (faultless : model.fault? key = none) :
    (model.settled key).Sound := by
  rcases fault?_eq_none_iff.mp faultless with ⟨_, distinct, declared⟩
  have names : (model.settled key).fieldNames = model.fieldNames :=
    map_reconcileFields (fun _ => rfl) model.required model.fields
  constructor
  case distinct =>
    rw [names]
    exact distinct
  case declared =>
    intro name demanded
    rw [names]
    rcases mem_reconcileFields_iff.mp demanded with before | ⟨field, member, _, rfl⟩
    · exact declared name before
    · exact List.mem_map_of_mem member
  case flagged => exact flagged_reconcileFields distinct

end Model

namespace ModelGraph

/-- Every model is stored under its own name and sound. -/
structure Sound (graph : ModelGraph) : Prop where
  keyed : graph.WellKeyed
  models : ∀ model ∈ graph.models, model.Sound

instance (graph : ModelGraph) : Decidable graph.Sound :=
  decidable_of_iff (graph.WellKeyed ∧ ∀ model ∈ graph.models, model.Sound)
    ⟨fun ⟨keyed, models⟩ => ⟨keyed, models⟩, fun sound => ⟨sound.keyed, sound.models⟩⟩

variable {graph settled : ModelGraph}

theorem faults_eq_nil_iff :
    graph.faults = [] ↔ ∀ entry ∈ graph.entries, entry.2.fault? entry.1 = none := by
  rw [faults, List.filterMap_eq_nil_iff]

theorem settle_of_sound (sound : graph.Sound) : graph.settle = .ok graph := by
  have eachSound : ∀ entry ∈ graph.entries, entry.2.Sound := by
    intro entry listed
    exact sound.models entry.2 (List.mem_map_of_mem listed)
  have faultless : graph.faults = [] := by
    apply faults_eq_nil_iff.mpr
    intro entry listed
    have model := eachSound entry listed
    exact Model.fault?_eq_none_iff.mpr
      ⟨.inr (sound.keyed entry listed), model.distinct, model.declared⟩
  have unchanged : graph.map Model.settled = graph := by
    apply NameMap.ext
    show (graph.entries.map fun entry => (entry.1, entry.2.settled entry.1)) = graph.entries
    have each : ∀ entry ∈ graph.entries, (entry.1, entry.2.settled entry.1) = entry := by
      intro entry listed
      rw [Model.settled_of_sound (eachSound entry listed) (sound.keyed entry listed)]
    rw [List.map_congr_left each, List.map_id']
  rw [settle, faultless]
  exact congrArg Except.ok unchanged

theorem eq_map_of_settle (done : graph.settle = .ok settled) :
    settled = graph.map Model.settled := by
  rw [settle] at done
  split at done
  · cases done
    rfl
  · cases done

theorem sound_of_settle (done : graph.settle = .ok settled) : settled.Sound := by
  rw [settle] at done
  split at done
  · rename_i faultless
    cases done
    have each := faults_eq_nil_iff.mp faultless
    constructor
    case keyed =>
      intro entry listed
      rcases List.mem_map.mp listed with ⟨source, member, rfl⟩
      rfl
    case models =>
      intro model listed
      rcases List.mem_map.mp listed with ⟨entry, entryListed, rfl⟩
      rcases List.mem_map.mp entryListed with ⟨source, member, rfl⟩
      exact Model.sound_settled (each source member)
  · cases done

end ModelGraph

end ModelLineage
