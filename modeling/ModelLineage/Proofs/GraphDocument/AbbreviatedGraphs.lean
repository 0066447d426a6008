import ModelLineage.Proofs.GraphDocument.AbbreviatedTypes
import ModelLineage.Proofs.GraphDocument.RoundTrip
import ModelLineage.Proofs.GraphDocument.ScatteredMembers

/-!
# Loading abbreviated documents

The members of a field and of a model are read in whatever order they stand.  The model
that is read may still lack its name and some marks of its required fields.  Settling it
supplies both, so that a graph is loaded from every abbreviation of its document.
-/

namespace ModelLineage

open Json (Tree Spelling SpellMembers containerLimit)

theorem exists_forall₂
    {First Second Third : Type}
    {writtenAs : First → Second → Prop} {readAs : Second → Third → Prop}
    {standsFor : Third → First → Prop}
    {firsts : List First} {seconds : List Second}
    (written : List.Forall₂ writtenAs firsts seconds)
    (each : ∀ first second, writtenAs first second →
      ∃ third, readAs second third ∧ standsFor third first) :
    ∃ thirds, List.Forall₂ readAs seconds thirds ∧ List.Forall₂ standsFor thirds firsts := by
  induction written with
  | nil => exact ⟨[], .nil, .nil⟩
  | cons first _ ih =>
      rcases each _ _ first with ⟨third, read, stands⟩
      rcases ih with ⟨thirds, othersRead, othersStand⟩
      exact ⟨third :: thirds, .cons read othersRead, .cons stands othersStand⟩

theorem map_eq_map_of_forall₂
    {First Second Part : Type}
    {part : First → Part} {part' : Second → Part}
    {firsts : List First} {seconds : List Second}
    (same : List.Forall₂ (fun first second => part first = part' second) firsts seconds) :
    firsts.map part = seconds.map part' := by
  rwa [← List.forall₂_eq_eq_eq, List.forall₂_map_left_iff, List.forall₂_map_right_iff]

/-! ## Fields -/

/-- What is known of a field after some keys. -/
def FieldParts.among (parts : FieldParts) (seen : List String) : FieldParts where
  name := partOf "name" parts.name seen
  type := partOf "type" parts.type seen
  required := partOf "required" parts.required seen

theorem FieldParts.among_eq_self
    {parts : FieldParts} {seen : List String}
    (name : partOf "name" parts.name seen = parts.name)
    (type : partOf "type" parts.type seen = parts.type)
    (required : partOf "required" parts.required seen = parts.required) :
    parts.among seen = parts := by
  rw [among, name, type, required]

theorem FieldParts.knownAfter (parts : FieldParts) :
    KnownAfter slots parts parts.among where
  unread := by
    intro slot listed seen fresh
    rcases mem_slots_iff.mp listed with rfl | rfl | rfl <;> exact if_neg fresh
  put := by
    intro slot listed part seen known
    rcases mem_slots_iff.mp listed with rfl | rfl | rfl <;> simp [among, partOf, ← known]
  other := by
    intro key seen unknown
    simp only [slots, List.map_cons, List.map_nil, List.mem_cons, List.not_mem_nil, or_false,
      not_or] at unknown
    rcases unknown with ⟨name, type, required⟩
    simp only [among, partOf_cons_of_ne (Ne.symm name), partOf_cons_of_ne (Ne.symm type),
      partOf_cons_of_ne (Ne.symm required)]

theorem readFieldMembers_of_abbreviated
    {field : Field} {type : Json} {needless : Prop} {outside : Nat}
    {flag members : List (String × Json)} {trees : List (Spelling × Tree)}
    (typed : ReadAs typeOfTree type field.type)
    (flagged : Omissible ("required", .boolean field.required) needless flag)
    (scattered :
      Scattered Field.keys ([("name", .string field.name), ("type", type)] ++ flag) members)
    (spell : SpellMembers trees members)
    (fits : Json.nestingOfMembers members + outside ≤ containerLimit) :
    readFieldMembers outside .none trees =
      .ok ⟨some field.name, some field.type, kept flag field.required⟩ := by
  let described := [("name", Json.string field.name), ("type", type)] ++ flag
  let parts : FieldParts := ⟨some field.name, some field.type, kept flag field.required⟩
  have stand : ∀ member ∈ described, StandsForPart FieldParts.slots parts member := by
    intro member listed
    rcases List.mem_append.mp listed with always | marked
    · rcases List.mem_pair.mp always with rfl | rfl
      · exact ⟨FieldParts.nameSlot, .head _, _, rfl, rfl, readAs_string _⟩
      · exact ⟨FieldParts.typeSlot, .tail _ (.head _), _, rfl, rfl, typed⟩
    · cases flagged.eq_of_mem marked
      exact ⟨FieldParts.requiredSlot, .tail _ (.tail _ (.head _)), _, rfl,
        kept_of_mem marked _, readAs_boolean _⟩
  have sublist : (described.map Prod.fst).Sublist Field.keys := by
    rw [List.map_append]
    exact (List.Sublist.refl ["name", "type"]).append flagged.keys_sublist
  have complete : parts.among (members.map Prod.fst).reverse = parts := by
    have met : ∀ member ∈ described, member.1 ∈ (members.map Prod.fst).reverse :=
      fun _ known => scattered.key_mem known
    apply FieldParts.among_eq_self
    · exact partOf_of_mem (met ("name", .string field.name) List.mem_cons_self) _
    · exact partOf_of_mem (met ("type", type) (List.mem_cons_of_mem _ List.mem_cons_self)) _
    · exact flagged.partOf_kept
        (fun other listed => met other (List.mem_append_right _ listed)) field.required
  have read := readMembers_of_scattered parts.knownAfter FieldParts.nodup_keys scattered sublist
    stand spell fits
  rw [complete] at read
  rw [readFieldMembers_eq]
  exact read

/-- A field as it is read: its flag may be missing if its name is known to be required. -/
structure Field.StandsFor (known : NameSet) (source field : Field) : Prop where
  name : source.name = field.name
  type : source.type = field.type
  flag : source.required = field.required ∨ source.required = false ∧ field.name ∈ known

theorem exists_readAs_field
    {listed : List String} {field : Field} {value : Json}
    (abbreviated : field.AbbreviatedBy listed value) :
    ∃ source, ReadAs fieldOfTree value source ∧
      Field.StandsFor (.ofList listed) source field := by
  cases abbreviated with
  | @intro type flag members typed flagged scattered =>
      refine ⟨⟨field.name, field.type, (kept flag field.required).getD false⟩, ?_, rfl, rfl, ?_⟩
      · intro tree outside spelled fits
        rcases spelled.exists_of_object with ⟨_, rfl, spell⟩
        rw [Json.nesting] at fits
        have typeRead : ReadAs typeOfTree type field.type :=
          fun _ _ spelled fits => typeOfTree_of_abbreviated typed spelled fits
        have read := readFieldMembers_of_abbreviated typeRead flagged scattered spell
          (show Json.nestingOfMembers members + (outside + 1) ≤ containerLimit by omega)
        rw [fieldOfTree, openInside_of_lt (by omega), ok_bind, read]
        rfl
      · cases flagged with
        | written => exact .inl rfl
        | omitted unneeded =>
            rcases unneeded with optional | known
            · exact .inl optional.symm
            · exact .inr ⟨rfl, NameSet.mem_ofList.mpr known⟩

/-! ## Models -/

/-- What is known of a model after some keys. -/
def ModelParts.among (parts : ModelParts) (seen : List String) : ModelParts where
  name := partOf "name" parts.name seen
  fields := partOf "fields" parts.fields seen
  required := partOf "requiredFieldNames" parts.required seen
  ancestors := partOf "ancestorNames" parts.ancestors seen

theorem ModelParts.among_eq_self
    {parts : ModelParts} {seen : List String}
    (name : partOf "name" parts.name seen = parts.name)
    (fields : partOf "fields" parts.fields seen = parts.fields)
    (required : partOf "requiredFieldNames" parts.required seen = parts.required)
    (ancestors : partOf "ancestorNames" parts.ancestors seen = parts.ancestors) :
    parts.among seen = parts := by
  rw [among, name, fields, required, ancestors]

theorem ModelParts.knownAfter (parts : ModelParts) :
    KnownAfter slots parts parts.among where
  unread := by
    intro slot listed seen fresh
    rcases mem_slots_iff.mp listed with rfl | rfl | rfl | rfl <;> exact if_neg fresh
  put := by
    intro slot listed part seen known
    rcases mem_slots_iff.mp listed with rfl | rfl | rfl | rfl <;> simp [among, partOf, ← known]
  other := by
    intro key seen unknown
    simp only [slots, List.map_cons, List.map_nil, List.mem_cons, List.not_mem_nil, or_false,
      not_or] at unknown
    rcases unknown with ⟨name, fields, required, ancestors⟩
    simp only [among, partOf_cons_of_ne (Ne.symm name), partOf_cons_of_ne (Ne.symm fields),
      partOf_cons_of_ne (Ne.symm required), partOf_cons_of_ne (Ne.symm ancestors)]

theorem readModelMembers_of_abbreviated
    {model : Model} {values : List Json} {sources : List Field} {listed : List String}
    {unnamed undeclared undemanding rootless : Prop} {outside : Nat}
    {name fields required ancestors members : List (String × Json)}
    {trees : List (Spelling × Tree)}
    (fieldsRead : ReadAs (listOfTree fieldOfTree) (.array values) sources)
    (named : Omissible ("name", .string model.name) unnamed name)
    (declared : Omissible ("fields", .array values) undeclared fields)
    (demands : Omissible ("requiredFieldNames", .strings listed) undemanding required)
    (descent : Omissible ("ancestorNames", .strings model.ancestors) rootless ancestors)
    (scattered : Scattered Model.keys (name ++ fields ++ required ++ ancestors) members)
    (spell : SpellMembers trees members)
    (fits : Json.nestingOfMembers members + outside ≤ containerLimit) :
    readModelMembers outside .none trees =
      .ok ⟨kept name model.name, kept fields sources, kept required listed,
        kept ancestors model.ancestors⟩ := by
  let described := name ++ fields ++ required ++ ancestors
  let parts : ModelParts :=
    ⟨kept name model.name, kept fields sources, kept required listed,
      kept ancestors model.ancestors⟩
  have stand : ∀ member ∈ described, StandsForPart ModelParts.slots parts member := by
    intro member known
    rcases List.mem_append.mp known with known | inAncestors
    · rcases List.mem_append.mp known with known | inRequired
      · rcases List.mem_append.mp known with inName | inFields
        · cases named.eq_of_mem inName
          exact ⟨ModelParts.nameSlot, .head _, _, rfl, kept_of_mem inName _, readAs_string _⟩
        · cases declared.eq_of_mem inFields
          exact ⟨ModelParts.fieldsSlot, .tail _ (.head _), _, rfl, kept_of_mem inFields _,
            fieldsRead⟩
      · cases demands.eq_of_mem inRequired
        exact ⟨ModelParts.requiredSlot, .tail _ (.tail _ (.head _)), _, rfl,
          kept_of_mem inRequired _, readAs_strings _⟩
    · cases descent.eq_of_mem inAncestors
      exact ⟨ModelParts.ancestorsSlot, .tail _ (.tail _ (.tail _ (.head _))), _, rfl,
        kept_of_mem inAncestors _, readAs_strings _⟩
  have sublist : (described.map Prod.fst).Sublist Model.keys := by
    rw [List.map_append, List.map_append, List.map_append]
    exact ((named.keys_sublist.append declared.keys_sublist).append
      demands.keys_sublist).append descent.keys_sublist
  have complete : parts.among (members.map Prod.fst).reverse = parts := by
    have met : ∀ member ∈ described, member.1 ∈ (members.map Prod.fst).reverse :=
      fun _ known => scattered.key_mem known
    apply ModelParts.among_eq_self
    · exact named.partOf_kept (fun other known => met other (by simp [described, known])) _
    · exact declared.partOf_kept (fun other known => met other (by simp [described, known])) _
    · exact demands.partOf_kept (fun other known => met other (by simp [described, known])) _
    · exact descent.partOf_kept (fun other known => met other (by simp [described, known])) _
  have read := readMembers_of_scattered parts.knownAfter ModelParts.nodup_keys scattered sublist
    stand spell fits
  rw [complete] at read
  rw [readModelMembers_eq]
  exact read

/-- A model as it is read: its name and some marks of its required fields may be missing. -/
structure Model.StandsFor (source model : Model) : Prop where
  name : source.name = "" ∨ source.name = model.name
  fields : List.Forall₂ (Field.StandsFor source.required) source.fields model.fields
  demanded : ∀ name ∈ source.required, name ∈ model.required
  ancestors : source.ancestors = model.ancestors

theorem exists_readAs_model
    {model : Model} {value : Json}
    (abbreviated : model.AbbreviatedBy value) :
    ∃ source, ReadAs modelOfTree value source ∧ source.StandsFor model := by
  cases abbreviated with
  | @intro listed values name fields required ancestors members demanded each named declared
      demands descent scattered =>
      have sources : ∃ sources, ReadAs (listOfTree fieldOfTree) (.array values) sources ∧
          List.Forall₂ (Field.StandsFor (.ofList listed)) sources model.fields := by
        rcases exists_forall₂ each fun _ _ => exists_readAs_field with ⟨sources, read, stand⟩
        exact ⟨sources, readAs_array read, stand⟩
      rcases sources with ⟨sources, fieldsRead, stand⟩
      refine ⟨⟨(kept name model.name).getD "", sources, .ofList listed, model.ancestors⟩, ?_, ?_⟩
      · intro tree outside spelled fits
        rcases spelled.exists_of_object with ⟨_, rfl, spell⟩
        rw [Json.nesting] at fits
        have read := readModelMembers_of_abbreviated fieldsRead named declared demands
          descent scattered spell
          (show Json.nestingOfMembers members + (outside + 1) ≤ containerLimit by omega)
        have noFields : model.fields = [] → sources = [] := by
          intro none
          rw [none] at stand
          cases stand
          rfl
        rw [modelOfTree, openInside_of_lt (by omega), ok_bind, read]
        show flawed (Json.Ending.closed.after (ModelParts.assemble _)) = _
        rw [ModelParts.assemble, declared.getD_kept noFields, demands.getD_kept id,
          descent.getD_kept id]
        rfl
      · constructor
        case name =>
          cases named with
          | written => exact .inr rfl
          | omitted => exact .inl rfl
        case fields => exact stand
        case demanded => exact fun name known => demanded name (NameSet.mem_ofList.mp known)
        case ancestors => rfl

/-! ## Settling -/

namespace Model

variable {source model : Model}

/-- Fields whose required marks come from their flags and a list become flagged accordingly. -/
theorem fst_reconcileFields_of_standsFor
    {listed required : NameSet} {sources fields : List Field}
    (stand : List.Forall₂ (Field.StandsFor listed) sources fields)
    (flagged : ∀ field ∈ fields, field.required = true ↔ field.name ∈ required)
    {known : NameSet}
    (least : ∀ name ∈ listed, name ∈ known)
    (most : ∀ name ∈ known, name ∈ required) :
    (reconcileFields known sources).1 = fields := by
  induction stand generalizing known with
  | nil => rfl
  | @cons source field sources fields first stand ih =>
      rcases source with ⟨name, type, flag⟩
      rcases field with ⟨fieldName, fieldType, fieldFlag⟩
      cases first.name
      cases first.type
      have firstFlagged : fieldFlag = true ↔ name ∈ required := flagged _ List.mem_cons_self
      have laterFlagged : ∀ field ∈ fields, field.required = true ↔ field.name ∈ required :=
        fun other member => flagged other (List.mem_cons_of_mem _ member)
      by_cases knownName : name ∈ known
      · rw [reconcileFields_of_mem knownName, ih laterFlagged least most,
          firstFlagged.mpr (most name knownName)]
      · have sameFlag : flag = fieldFlag := by
          rcases first.flag with same | ⟨_, inList⟩
          · exact same
          · exact absurd (least name inList) knownName
        rw [reconcileFields_of_not_mem knownName, sameFlag]
        cases fieldFlag with
        | false =>
            rw [if_neg Bool.false_ne_true, ih laterFlagged least most]
        | true =>
            have leastLater : ∀ other ∈ listed, other ∈ known.insert name :=
              fun other inList => NameSet.mem_insert.mpr (.inr (least other inList))
            have mostLater : ∀ other ∈ known.insert name, other ∈ required := by
              intro other inserted
              rcases NameSet.mem_insert.mp inserted with rfl | before
              · exact firstFlagged.mp rfl
              · exact most other before
            rw [if_pos rfl, ih laterFlagged leastLater mostLater]

theorem fieldNames_of_standsFor (stands : source.StandsFor model) :
    source.fieldNames = model.fieldNames :=
  map_eq_map_of_forall₂ (stands.fields.imp fun _ _ stand => stand.name)

theorem fault?_of_standsFor
    (stands : source.StandsFor model)
    (sound : model.Sound) :
    source.fault? model.name = none := by
  rw [fault?_eq_none_iff, fieldNames_of_standsFor stands]
  exact ⟨stands.name, sound.distinct,
    fun name known => sound.declared name (stands.demanded name known)⟩

/-- Settling supplies what the model that was read lacked. -/
theorem settled_of_standsFor
    (stands : source.StandsFor model)
    (sound : model.Sound) :
    source.settled model.name = model := by
  have names := fieldNames_of_standsFor stands
  have fields : (reconcileFields source.required source.fields).1 = model.fields :=
    fst_reconcileFields_of_standsFor stands.fields sound.flagged (fun _ known => known)
      stands.demanded
  have required : (reconcileFields source.required source.fields).2 = model.required := by
    have distinct : (source.fields.map Field.name).Nodup := by
      rw [← fieldNames, names]
      exact sound.distinct
    have flagged : ∀ field ∈ (reconcileFields source.required source.fields).1,
        field.required = true ↔
          field.name ∈ (reconcileFields source.required source.fields).2 :=
      flagged_reconcileFields distinct
    rw [fields] at flagged
    -- Both sets hold names of fields only, and each of them those of the flagged ones.
    have sameNames : ∀ name ∈ model.fieldNames,
        name ∈ (reconcileFields source.required source.fields).2 ↔ name ∈ model.required := by
      intro name declared
      rcases List.mem_map.mp declared with ⟨field, member, rfl⟩
      exact (flagged field member).symm.trans (sound.flagged field member)
    apply NameSet.ext_mem
    intro name
    constructor
    · intro demanded
      rcases mem_reconcileFields_iff.mp demanded with known | ⟨field, member, _, rfl⟩
      · exact stands.demanded name known
      · refine (sameNames _ ?_).mp demanded
        rw [← names]
        exact List.mem_map_of_mem member
    · intro demanded
      exact (sameNames name (sound.declared name demanded)).mpr demanded
  rcases model with ⟨name, modelFields, modelRequired, ancestors⟩
  rw [settled, reconcileRequired]
  show Model.mk name (reconcileFields source.required source.fields).1
    (reconcileFields source.required source.fields).2 source.ancestors = _
  rw [fields, required, stands.ancestors]

end Model

/-! ## Graphs -/

namespace ModelGraph

/-- An entry that was read stands for an entry of a graph. -/
structure EntryStandsFor (source entry : String × Model) : Prop where
  key : source.1 = entry.1
  model : source.2.StandsFor entry.2

theorem mapM_readEntry_of_readAs
    {outside : Nat} {trees : List (Spelling × Tree)} {members : List (String × Json)}
    {sources : List (String × Model)}
    (each : List.Forall₂
      (fun member source => member.1 = source.1 ∧ ReadAs modelOfTree member.2 source.2)
      members sources)
    (spell : SpellMembers trees members)
    (fits : Json.nestingOfMembers members + outside ≤ containerLimit) :
    trees.mapM (readEntry outside) = .ok sources := by
  induction each generalizing trees with
  | nil =>
      cases spell
      rfl
  | @cons member source members sources first _ ih =>
      rcases source with ⟨name, model⟩
      cases spell with
      | @cons spelling tree key value _ _ keySpelled spelled later =>
          rcases first with ⟨rfl, modelRead⟩
          rw [Json.nestingOfMembers] at fits
          have bound : value.nesting + outside ≤ containerLimit := by
            omega
          have entry : readEntry outside (spelling, tree) = .ok (key, model) := by
            rw [readEntry, keySpelled.text]
            show (modelOfTree outside tree >>= _) = _
            rw [modelRead tree outside spelled bound]
            rfl
          rw [List.mapM_cons, entry, ok_bind, ih later (by omega)]
          rfl

/-- What a graph may be written as is read as a graph that is settled to it. -/
theorem exists_readAs_graph
    {graph : ModelGraph} {value : Json}
    (abbreviated : graph.AbbreviatedBy value) :
    ∃ source : ModelGraph, ReadAs graphOfTree value source ∧
      List.Forall₂ EntryStandsFor source.entries graph.entries := by
  cases abbreviated with
  | @intro members each =>
      have entries : ∃ entries,
          List.Forall₂
              (fun member source => member.1 = source.1 ∧ ReadAs modelOfTree member.2 source.2)
              members entries ∧
            List.Forall₂ EntryStandsFor entries graph.entries := by
        refine exists_forall₂ each ?_
        rintro ⟨key, model⟩ ⟨name, value⟩ ⟨rfl, abbreviated⟩
        rcases exists_readAs_model abbreviated with ⟨source, read, stands⟩
        exact ⟨(name, source), ⟨rfl, read⟩, ⟨rfl, stands⟩⟩
      rcases entries with ⟨entries, read, stand⟩
      have keys : entries.map Prod.fst = graph.entries.map Prod.fst :=
        map_eq_map_of_forall₂ (stand.imp fun _ _ stands => stands.key)
      have ascending : (entries.map Prod.fst).Pairwise (· < ·) := by
        rw [keys]
        exact graph.ascending
      refine ⟨.ofList entries, ?_, ?_⟩
      · intro tree outside spelled fits
        rcases spelled.exists_of_object with ⟨_, rfl, spell⟩
        rw [Json.nesting] at fits
        rw [graphOfTree, openInside_of_lt (by omega), ok_bind,
          mapM_readEntry_of_readAs read spell (by omega)]
        rfl
      · rwa [NameMap.entries_ofList_of_ascending ascending]

theorem settled_entries_of_standsFor
    {sources entries : List (String × Model)}
    (stand : List.Forall₂ EntryStandsFor sources entries)
    (sound : ∀ entry ∈ entries, entry.2.name = entry.1 ∧ entry.2.Sound) :
    (∀ source ∈ sources, source.2.fault? source.1 = none) ∧
      sources.map (fun source => (source.1, source.2.settled source.1)) = entries := by
  induction stand with
  | nil => simp
  | @cons source entry sources entries first _ ih =>
      rcases sound entry List.mem_cons_self with ⟨named, model⟩
      rcases ih fun other member => sound other (List.mem_cons_of_mem _ member) with
        ⟨faultless, settled⟩
      have key : source.1 = entry.2.name := first.key.trans named.symm
      constructor
      · intro other member
        rcases List.mem_cons.mp member with rfl | later
        · rw [key]
          exact Model.fault?_of_standsFor first.model model
        · exact faultless other later
      · rw [List.map_cons, settled, key, Model.settled_of_standsFor first.model model, named]

theorem settle_of_standsFor
    {source graph : ModelGraph}
    (stand : List.Forall₂ EntryStandsFor source.entries graph.entries)
    (sound : graph.Sound) :
    source.settle = .ok graph := by
  have models : ∀ entry ∈ graph.entries, entry.2.name = entry.1 ∧ entry.2.Sound :=
    fun entry member =>
      ⟨sound.keyed entry member, sound.models entry.2 (List.mem_map_of_mem member)⟩
  rcases settled_entries_of_standsFor stand models with ⟨faultless, settled⟩
  have same : source.map Model.settled = graph := NameMap.ext settled
  rw [settle, faults_eq_nil_iff.mpr faultless]
  exact congrArg Except.ok same

/--
A sound graph is loaded from every text that spells an abbreviation of its document, if no
more than 127 containers are nested in it.
-/
theorem load_abbreviated
    {graph : ModelGraph} {value : Json} {text : String}
    (sound : graph.Sound)
    (abbreviated : graph.AbbreviatedBy value)
    (spelled : value.SpelledBy text)
    (nested : value.nesting ≤ 127) :
    load text = .ok graph := by
  rcases exists_readAs_graph abbreviated with ⟨source, read, stand⟩
  rcases spelled with ⟨tree, spelled, lexed⟩
  have settled := settle_of_standsFor stand sound
  rw [load, ofText, readWhole, Json.ofText_of_lexed lexed spelled]
  show ((graphOfTree 0 tree >>= _).mapError LoadError.read >>= _) = _
  rw [read tree 0 spelled nested]
  show (source.settle).mapError LoadError.fault = _
  rw [settled]
  rfl

/-- A graph with a list, a double and a reference, two of them required. -/
def shelter : ModelGraph where
  entries :=
    [("Base", ⟨"Base", [], ∅, []⟩),
      ("Pet",
        ⟨"Pet",
          [⟨"tags", .list (.primitive .string) false, true⟩,
            ⟨"weight", .primitive .double, true⟩,
            ⟨"owner", .reference "Owner", false⟩],
          .ofList ["tags", "weight"], ["Base"]⟩)]
  ascending := by decide

/-- Every member comes later than in the document, and what can be left out is left out. -/
def scrambledShelter : Json :=
  .object
    [("Base", .object []),
      ("Pet",
        .object
          [("comment", .array [.null]),
            ("ancestorNames", .strings ["Base"]),
            ("requiredFieldNames", .strings ["tags", "tags"]),
            ("fields",
              .array
                [.object
                  [("type",
                      .object
                        [("items",
                            .object [("type", .string "string"), ("kind", .string "primitive")]),
                          ("kind", .string "list")]),
                    ("name", .string "tags")],
                  .object
                    [("required", .boolean true),
                      ("type",
                        .object
                          [("model", .null), ("type", .string "number"),
                            ("kind", .string "primitive")]),
                      ("name", .string "weight")],
                  .object
                    [("type",
                        .object [("model", .string "Owner"), ("kind", .string "reference")]),
                      ("name", .string "owner")]])])]

theorem abbreviatedBy_scrambledShelter : shelter.AbbreviatedBy scrambledShelter := by
  have backwards {keys : List String} {described members : List (String × Json)}
      (added : List (String × Json))
      (unknown : ∀ member ∈ added, member.1 ∉ keys)
      (same : members = (described ++ added).reverse) :
      Scattered keys described members := by
    refine ⟨added, unknown, ?_⟩
    rw [same]
    exact List.reverse_perm _
  have none {keys : List String} : ∀ member ∈ ([] : List (String × Json)), member.1 ∉ keys := by
    simp
  refine .intro (.cons ⟨rfl, ?base⟩ (.cons ⟨rfl, ?pet⟩ .nil))
  case base =>
    have listed : ∀ name ∈ ([] : List String), name ∈ (∅ : NameSet) := by simp
    exact .intro listed .nil (.omitted trivial) (.omitted rfl) (.omitted rfl) (.omitted rfl)
      (backwards [] none rfl)
  case pet =>
    have listed : ∀ name ∈ ["tags", "tags"], name ∈ NameSet.ofList ["tags", "weight"] := by
      simp
    refine .intro listed (.cons ?tags (.cons ?weight (.cons ?owner .nil))) (.omitted trivial)
      .written .written .written
      (backwards [("comment", .array [.null])] (by simp [Model.keys]) rfl)
    case tags =>
      exact .intro
        (.list (.primitive (.inl rfl) (backwards [] none rfl)) (.omitted rfl)
          (backwards [] none rfl))
        (.omitted (.inr (by decide))) (backwards [] none rfl)
    case weight =>
      exact .intro
        (.primitive (.inr ⟨rfl, rfl⟩)
          (backwards [("model", .null)] (by simp [Kind.keys]) rfl))
        .written (backwards [] none rfl)
    case owner =>
      exact .intro (.reference (backwards [] none rfl)) (.omitted (.inl rfl))
        (backwards [] none rfl)

theorem load_abbreviated_scrambled :
    load scrambledShelter.compactText = .ok shelter := by
  have numberless : scrambledShelter.Numberless := by
    simp [scrambledShelter, Json.strings, Json.Numberless, Json.NumberlessItems,
      Json.NumberlessMembers]
  apply load_abbreviated
  · decide
  · exact abbreviatedBy_scrambledShelter
  · exact Json.spelledBy_compactText numberless
  · decide

end ModelGraph

end ModelLineage
