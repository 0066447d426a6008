import ModelLineage.Proofs.GraphDocument.Soundness
import ModelLineage.Proofs.Outcomes

/-!
# What loading accepts

A decoded graph is loaded exactly if every model is unnamed or named by its key, has
distinct field names and requires only names of its fields.  The loaded graph has
the keys, fields and ancestors of the decoded one; only names and required marks
are filled in.

Otherwise one fault is reported, that of the least key under which there is any.
Of the faults of one model, its name counts before a repeated field, and that before
an unknown required name.
-/

namespace ModelLineage

namespace Model

variable {key : String} {model image source : Model} {fault : ModelFault}

/-- What a document may say of a model under a key. -/
structure Acceptable (key : String) (model : Model) : Prop where
  named : model.name = "" ∨ model.name = key
  distinct : model.fieldNames.Nodup
  declared : ∀ name ∈ model.required, name ∈ model.fieldNames

instance (key : String) (model : Model) : Decidable (model.Acceptable key) :=
  decidable_of_iff
    ((model.name = "" ∨ model.name = key) ∧ model.fieldNames.Nodup ∧
      ∀ name ∈ model.required.toList, name ∈ model.fieldNames)
    ⟨fun ⟨named, distinct, declared⟩ => ⟨named, distinct, declared⟩,
      fun acceptable => ⟨acceptable.named, acceptable.distinct, acceptable.declared⟩⟩

theorem acceptable_iff : model.Acceptable key ↔ model.fault? key = none := by
  rw [fault?_eq_none_iff]
  exact ⟨fun acceptable => ⟨acceptable.named, acceptable.distinct, acceptable.declared⟩,
    fun ⟨named, distinct, declared⟩ => ⟨named, distinct, declared⟩⟩

/-! ## The fault of a model -/

/-- The fault that counts of those that a model has under a key. -/
inductive FirstFault (key : String) (model : Model) : ModelFault → Prop
  | nameMismatch
      (given : model.name ≠ "")
      (other : model.name ≠ key) :
      FirstFault key model (.nameMismatch key model.name)
  | duplicateField {field : String} {before after : List String}
      (named : model.name = "" ∨ model.name = key)
      (listed : model.fieldNames = before ++ field :: after)
      (distinctBefore : before.Nodup)
      (earlier : field ∈ before) :
      FirstFault key model (.duplicateField key field)
  | unknownRequiredField {name : String}
      (named : model.name = "" ∨ model.name = key)
      (distinct : model.fieldNames.Nodup)
      (demanded : name ∈ model.required)
      (undeclared : name ∉ model.fieldNames)
      (least : ∀ other ∈ model.required, other ∉ model.fieldNames → name ≤ other) :
      FirstFault key model (.unknownRequiredField key name)

/-- The first name that has come before, on the list or ahead of it. -/
theorem firstRepeated?_eq_some_iff
    {seen names : List String} {name : String} :
    firstRepeated? seen names = some name ↔
      ∃ before after, names = before ++ name :: after ∧
        before.Nodup ∧ (∀ other ∈ before, other ∉ seen) ∧ (name ∈ before ∨ name ∈ seen) := by
  induction names generalizing seen with
  | nil => simp [firstRepeated?]
  | cons first names ih =>
      rw [firstRepeated?]
      by_cases known : first ∈ seen
      · rw [if_pos known]
        constructor
        · intro same
          cases same
          exact ⟨[], names, rfl, List.nodup_nil, by simp, .inr known⟩
        · rintro ⟨before, after, split, _, unseen, _⟩
          cases before with
          | nil =>
              cases split
              rfl
          | cons other before =>
              cases split
              exact absurd known (unseen first List.mem_cons_self)
      · rw [if_neg known, ih]
        constructor
        · rintro ⟨before, after, rfl, distinct, unseen, repeated⟩
          refine ⟨first :: before, after, rfl, ?_, ?_, ?_⟩
          · refine List.nodup_cons.mpr ⟨?_, distinct⟩
            intro again
            exact unseen first again List.mem_cons_self
          · refine List.forall_mem_cons.mpr ⟨known, ?_⟩
            intro other listed seenBefore
            exact unseen other listed (List.mem_cons_of_mem _ seenBefore)
          · rcases repeated with later | seenNow
            · exact .inl (List.mem_cons_of_mem _ later)
            · rcases List.mem_cons.mp seenNow with rfl | seenBefore
              · exact .inl List.mem_cons_self
              · exact .inr seenBefore
        · rintro ⟨before, after, split, distinct, unseen, repeated⟩
          cases before with
          | nil =>
              cases split
              rcases repeated with nowhere | seenBefore
              · cases nowhere
              · exact absurd seenBefore known
          | cons other before =>
              cases split
              rw [List.nodup_cons] at distinct
              rw [List.forall_mem_cons] at unseen
              refine ⟨before, after, rfl, distinct.2, ?_, ?_⟩
              · intro other listed seenNow
                rcases List.mem_cons.mp seenNow with rfl | seenBefore
                · exact distinct.1 listed
                · exact unseen.2 other listed seenBefore
              · rcases repeated with listed | seenBefore
                · rcases List.mem_cons.mp listed with rfl | later
                  · exact .inr List.mem_cons_self
                  · exact .inl later
                · exact .inr (List.mem_cons_of_mem _ seenBefore)

/-- A field name that is found repeated is the first that stands among those before it. -/
theorem firstRepeated?_nil_eq_some_iff
    {names : List String} {name : String} :
    firstRepeated? [] names = some name ↔
      ∃ before after, names = before ++ name :: after ∧ before.Nodup ∧ name ∈ before := by
  rw [firstRepeated?_eq_some_iff]
  simp

/-- The required name that is found unknown is the least one. -/
theorem find?_undeclared_eq_some_iff
    {name : String} :
    (model.required.toList.find? fun name => name ∉ model.fieldNames) = some name ↔
      name ∈ model.required ∧ name ∉ model.fieldNames ∧
        ∀ other ∈ model.required, other ∉ model.fieldNames → name ≤ other := by
  rw [NameSet.find?_eq_some_iff]
  simp only [decide_eq_true_iff]

/-- The fault that is found in a model is the one that counts. -/
theorem fault?_eq_some_iff : model.fault? key = some fault ↔ model.FirstFault key fault := by
  rw [fault?]
  constructor
  · intro found
    split at found
    · rename_i misnamed
      cases found
      exact .nameMismatch misnamed.1 misnamed.2
    · rename_i fine
      have named : model.name = "" ∨ model.name = key := by
        by_contra misnamed
        exact fine (not_or.mp misnamed)
      split at found
      · rename_i field repeated
        cases found
        rcases firstRepeated?_nil_eq_some_iff.mp repeated with
          ⟨before, after, listed, distinct, earlier⟩
        exact .duplicateField named listed distinct earlier
      · rename_i unrepeated
        split at found
        · rename_i name unknown
          cases found
          rcases find?_undeclared_eq_some_iff.mp unknown with ⟨demanded, undeclared, least⟩
          exact .unknownRequiredField named (firstRepeated?_eq_none_iff.mp unrepeated).1
            demanded undeclared least
        · cases found
  · intro first
    cases first with
    | nameMismatch given other => rw [if_pos ⟨given, other⟩]
    | duplicateField named listed distinct earlier =>
        rw [if_neg (not_and_or.mpr (named.imp not_not.mpr not_not.mpr)),
          firstRepeated?_nil_eq_some_iff.mpr ⟨_, _, listed, distinct, earlier⟩]
    | unknownRequiredField named distinct demanded undeclared least =>
        rw [if_neg (not_and_or.mpr (named.imp not_not.mpr not_not.mpr)),
          firstRepeated?_eq_none_iff.mpr ⟨distinct, by simp⟩,
          find?_undeclared_eq_some_iff.mpr ⟨demanded, undeclared, least⟩]

/-! ## The model as it is loaded -/

/--
A model is loaded from another under a key: it is named by the key and has the fields
and ancestors of the other.  A field is flagged if it was flagged or listed as
required, and the flagged ones are listed too.
-/
structure SettledFrom (image : Model) (key : String) (source : Model) : Prop where
  name : image.name = key
  fields : image.fields = source.fields.map fun field =>
    { field with required := field.required || decide (field.name ∈ source.required) }
  required : ∀ name, name ∈ image.required ↔
    name ∈ source.required ∨ ∃ field ∈ source.fields, field.required = true ∧ field.name = name
  ancestors : image.ancestors = source.ancestors

theorem settledFrom_settled (distinct : model.fieldNames.Nodup) :
    (model.settled key).SettledFrom key model where
  name := rfl
  fields := fields_reconcileFields distinct
  required := fun _ => mem_reconcileFields_iff
  ancestors := rfl

end Model

namespace ModelGraph

variable {raw settled : ModelGraph} {fault : ModelFault} {text : String}

/-- Every model is acceptable under its key. -/
def Acceptable (graph : ModelGraph) : Prop :=
  ∀ key model, graph.get? key = some model → model.Acceptable key

theorem faults_eq_nil_iff_acceptable : raw.faults = [] ↔ raw.Acceptable := by
  rw [faults_eq_nil_iff]
  constructor
  · intro faultless key model stored
    exact Model.acceptable_iff.mpr (faultless (key, model) (NameMap.mem_entries_iff.mpr stored))
  · intro acceptable entry listed
    exact Model.acceptable_iff.mp (acceptable entry.1 entry.2 (NameMap.mem_entries_iff.mp listed))

/-- A graph can be settled exactly if it is acceptable. -/
theorem exists_settle_eq_ok_iff :
    (∃ settled, raw.settle = .ok settled) ↔ raw.Acceptable := by
  rw [← faults_eq_nil_iff_acceptable, settle]
  cases raw.faults with
  | nil => simp
  | cons first others => simp

/-- A settled graph has the keys of the original, and under each a model loaded from there. -/
theorem settledFrom_of_settle (done : raw.settle = .ok settled) :
    settled.keys = raw.keys ∧
      ∀ key model, raw.get? key = some model →
        ∃ image, settled.get? key = some image ∧ image.SettledFrom key model := by
  have acceptable : raw.Acceptable := exists_settle_eq_ok_iff.mp ⟨settled, done⟩
  rw [eq_map_of_settle done]
  refine ⟨NameMap.keys_map .., ?_⟩
  intro key model stored
  refine ⟨model.settled key, ?_, Model.settledFrom_settled (acceptable key model stored).distinct⟩
  rw [NameMap.get?_map, stored]
  rfl

/-- What is found wrong with a graph is the fault that counts under the least key with any. -/
theorem exists_firstFault_of_settle (failed : raw.settle = .error fault) :
    ∃ key model, raw.get? key = some model ∧ model.FirstFault key fault ∧
      ∀ other later, raw.get? other = some later → other < key → later.Acceptable other := by
  rw [settle] at failed
  split at failed
  · cases failed
  · rename_i others found
    cases failed
    rcases List.filterMap_eq_cons_iff.mp found with
      ⟨before, ⟨key, model⟩, after, split, faultless, faulty, _⟩
    refine ⟨key, model, ?_, Model.fault?_eq_some_iff.mp faulty, ?_⟩
    · apply NameMap.mem_entries_iff.mp
      rw [split]
      exact List.mem_append_right _ List.mem_cons_self
    · intro other later stored below
      have listed := NameMap.mem_entries_iff.mpr stored
      rw [split, List.mem_append, List.mem_cons] at listed
      apply Model.acceptable_iff.mpr
      rcases listed with earlier | same | further
      · exact faultless (other, later) earlier
      · cases same
        exact absurd below (String.lt_irrefl _)
      · have above : key < other := NameMap.lt_of_entries_eq_append split (other, later) further
        exact absurd below (String.lt_asymm above)

/-- A decoded graph is settled, and what is wrong with it is what loading reports. -/
theorem load_eq_settle (decoded : ofText text = .ok raw) :
    load text = raw.settle.mapError .fault := by
  rw [load, decoded]
  rfl

/--
Loading accepts the decoded graphs that are acceptable, and changes only names and
required marks.  Otherwise it reports the fault that counts under the least key that
has one.
-/
theorem load_of_decoded (decoded : ofText text = .ok raw) :
    ((∃ graph, load text = .ok graph) ↔ raw.Acceptable) ∧
    (∀ graph, load text = .ok graph →
      graph.keys = raw.keys ∧
      ∀ key model, raw.get? key = some model →
        ∃ image, graph.get? key = some image ∧ image.SettledFrom key model) ∧
    (∀ error, load text = .error error →
      ∃ key model fault,
        error = .fault fault ∧ raw.get? key = some model ∧ model.FirstFault key fault ∧
        ∀ other later, raw.get? other = some later → other < key → later.Acceptable other) := by
  rw [load_eq_settle decoded, ← exists_settle_eq_ok_iff]
  cases outcome : raw.settle with
  | ok settled =>
      refine ⟨?_, ?_, ?_⟩
      · exact ⟨fun _ => ⟨settled, rfl⟩, fun _ => ⟨settled, rfl⟩⟩
      · intro graph done
        cases done
        exact settledFrom_of_settle outcome
      · intro error failed
        cases failed
  | error fault =>
      refine ⟨?_, ?_, ?_⟩
      · constructor <;> rintro ⟨_, done⟩ <;> cases done
      · intro graph done
        cases done
      · intro error failed
        cases failed
        rcases exists_firstFault_of_settle outcome with ⟨key, model, stored, first, least⟩
        exact ⟨key, model, fault, rfl, stored, first, least⟩

/-- A document of a model without a name that lists a field as required and does not flag it. -/
def unsettled : String :=
  "\x7b\"Dog\":\x7b\"fields\":[\x7b\"name\":\"bark\"," ++
    "\"type\":\x7b\"kind\":\"primitive\",\"type\":\"string\"\x7d\x7d]," ++
    "\"requiredFieldNames\":[\"bark\"]\x7d\x7d"

def unsettledDog : Model :=
  ⟨"", [⟨"bark", .primitive .string, false⟩], .ofList ["bark"], []⟩

theorem load_of_decoded_unsettled :
    ∃ graph image,
      load unsettled = .ok graph ∧
      graph.get? "Dog" = some image ∧
      image.name = "Dog" ∧
      image.fields = [⟨"bark", .primitive .string, true⟩] ∧
      ∀ name, name ∈ image.required ↔ name = "bark" := by
  have read : (ofText unsettled).toOption = some (.ofList [("Dog", unsettledDog)]) := by
    decide +kernel
  have acceptable : Acceptable (.ofList [("Dog", unsettledDog)]) := by
    apply faults_eq_nil_iff_acceptable.mp
    decide +kernel
  rcases load_of_decoded (ok_of_toOption_eq_some read) with ⟨accepted, loaded, -⟩
  rcases accepted.mpr acceptable with ⟨graph, done⟩
  rcases (loaded graph done).2 "Dog" unsettledDog (by decide +kernel) with
    ⟨image, found, settled⟩
  refine ⟨graph, image, done, found, settled.name, ?_, ?_⟩
  · rw [settled.fields]
    decide +kernel
  · intro name
    rw [settled.required]
    simp [unsettledDog]

/-- Of two faulty models the first counts, and of its faults the repeated field. -/
example :
    settle (.ofList
      [("Dog", ⟨"", [⟨"bark", .primitive .string, false⟩, ⟨"bark", .primitive .string, false⟩],
          .ofList ["age"], []⟩),
        ("Pet", ⟨"Dog", [], ∅, []⟩)]) = .error (.duplicateField "Dog" "bark") := by
  rfl

end ModelGraph

end ModelLineage
