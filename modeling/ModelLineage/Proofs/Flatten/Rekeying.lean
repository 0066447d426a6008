import ModelLineage.Proofs.Flatten.FlattenedForm
import ModelLineage.GraphDocument.ModelReader
import ModelLineage.Proofs.Outcomes

/-!
# Keys and names

Flattening stores every model anew under its name.  In a well-keyed graph this is
where it was.  In a graph that was decoded and not settled a name may differ from the
key, and several models may share one; then the keys afterwards are the names, and
of the models of one name the last in key order stays.

What stays has lost no field.  If it is the only model of its name, the lineage of
that name is its own, whatever keys the descent came by, and a lineage holds all
names that its model declares.  If it is not, the lineage went to the first of
them, and it has its own fields still.
-/

namespace ModelLineage

namespace OpenModel

/-- An open model is a model of the graph and holds all field names that this declares. -/
structure HoldsOwn (opened : OpenModel) (graph : ModelGraph) : Prop where
  stored : opened.model ∈ graph.models
  indexed : opened.roster.Indexed
  names : opened.model.fieldNames ⊆ opened.roster.toList.map Field.name

variable {graph : ModelGraph} {opened : OpenModel}

theorem holdsOwn_ofModel
    {model : Model}
    (stored : model ∈ graph.models) :
    (ofModel model).HoldsOwn graph where
  stored := stored
  indexed := indexed_ofModel model
  names := by
    intro name declared
    have listed : (ofModel model).roster.toList = firstDeclarations model.fields :=
      FieldRoster.indexed_empty.toList_offerAll model.fields
    rw [listed]
    exact mem_names_firstDeclarations.mpr declared

theorem HoldsOwn.advance (holds : opened.HoldsOwn graph) : opened.advance.HoldsOwn graph where
  stored := holds.stored
  indexed := holds.indexed
  names := holds.names

theorem HoldsOwn.inherit
    (holds : opened.HoldsOwn graph)
    (source : String)
    (inherited : Lineage) :
    (opened.inherit source inherited).1.HoldsOwn graph where
  stored := by
    rw [(inherit_keeps opened source inherited).1]
    exact holds.stored
  indexed := by
    rw [roster_inherit]
    exact holds.indexed.offerAll inherited.fields
  names := by
    rw [(inherit_keeps opened source inherited).1, roster_inherit,
      holds.indexed.toList_offerAll]
    intro name declared
    apply mem_names_firstDeclarations.mpr
    rw [List.map_append]
    exact List.mem_append_left _ (holds.names declared)

end OpenModel

namespace Descent

variable {graph : ModelGraph} {descent descent' : Descent} {stack outer : List OpenModel}

/-- Open models hold their own names, and lineages those of a model of their name. -/
structure HoldsOwn
    (graph : ModelGraph)
    (descent : Descent)
    (stack : List OpenModel) : Prop where
  opened : ∀ opened ∈ stack, opened.HoldsOwn graph
  left : ∀ {name lineage}, descent.lineages[name]? = some lineage →
    ∃ model ∈ graph.models,
      model.name = name ∧ model.fieldNames ⊆ lineage.fields.map Field.name

namespace HoldsOwn

theorem enter
    {model : Model}
    (holds : HoldsOwn graph descent stack)
    (stored : model ∈ graph.models) :
    HoldsOwn graph (descent.descendTo model) (OpenModel.ofModel model :: stack) where
  opened := List.forall_mem_cons.mpr ⟨OpenModel.holdsOwn_ofModel stored, holds.opened⟩
  left := holds.left

theorem inheritFrom
    {opened : OpenModel}
    (holds : HoldsOwn graph descent (opened :: outer))
    (ancestor : String) :
    HoldsOwn graph (descent.inheritFrom opened ancestor).1
      ((descent.inheritFrom opened ancestor).2.advance :: outer) where
  opened := by
    rcases List.forall_mem_cons.mp holds.opened with ⟨first, others⟩
    refine List.forall_mem_cons.mpr ⟨OpenModel.HoldsOwn.advance ?_, others⟩
    rw [Descent.inheritFrom]
    split
    · exact first
    · exact first.inherit ancestor _
  left := by
    rw [lineages_inheritFrom]
    exact holds.left

theorem close
    {opened : OpenModel}
    (holds : HoldsOwn graph descent (opened :: outer)) :
    HoldsOwn graph (descent.close opened) outer where
  opened := (List.forall_mem_cons.mp holds.opened).2
  left := by
    intro name lineage kept
    rw [Descent.close, getElem?_insert_name] at kept
    split at kept
    · rename_i same
      cases kept
      have first := (List.forall_mem_cons.mp holds.opened).1
      exact ⟨opened.model, first.stored, same, first.names⟩
    · exact holds.left kept

theorem next
    {opened : OpenModel}
    (holds : HoldsOwn graph descent (opened :: outer))
    (rule : Rule graph descent opened outer (.next descent' stack)) :
    HoldsOwn graph descent' stack := by
  cases rule with
  | close => exact holds.close
  | skip =>
      rcases List.forall_mem_cons.mp holds.opened with ⟨first, others⟩
      exact ⟨List.forall_mem_cons.mpr ⟨first.advance, others⟩, holds.left⟩
  | collect => exact holds.inheritFrom _
  | enter _ found _ => exact holds.enter (mem_models_of_get? found)

end HoldsOwn

/-- In any graph at all, lineages hold the names of a model of their name. -/
theorem Reached.holdsOwn (reached : Reached graph descent stack) :
    HoldsOwn graph descent stack := by
  induction reached with
  | start => exact ⟨by simp, by simp [Descent.start]⟩
  | enter _ stored _ ih => exact ih.enter stored
  | step _ rule ih => exact ih.next rule

end Descent

namespace ModelGraph

variable {graph : ModelGraph} {flattening : Flattening}

/-! ## What is handed out -/

@[simp]
theorem map_name_handOut
    (lineages : Std.TreeMap String Lineage)
    (models : List Model) :
    (handOut lineages models).map Model.name = models.map Model.name := by
  induction models generalizing lineages with
  | nil => rfl
  | cons model models ih =>
      rw [handOut]
      split
      · rw [List.map_cons, List.map_cons, ih]
        rfl
      · rw [List.map_cons, List.map_cons, ih]

/-- After a model has been handed a lineage, those that are left are of other names. -/
theorem exists_handOut_cons_eq
    (lineages : Std.TreeMap String Lineage)
    (first : Model)
    (models : List Model) :
    ∃ (image : Model) (left : Std.TreeMap String Lineage),
      handOut lineages (first :: models) = image :: handOut left models ∧
      ∀ name lineage, left[name]? = some lineage →
        lineages[name]? = some lineage ∧ name ≠ first.name := by
  rw [handOut]
  split
  · refine ⟨_, lineages.erase first.name, rfl, ?_⟩
    intro name lineage kept
    simp only [Std.TreeMap.getElem?_erase, Std.LawfulEqCmp.compare_eq_iff_eq] at kept
    split at kept
    · cases kept
    · rename_i differs
      exact ⟨kept, Ne.symm differs⟩
  · rename_i missing
    refine ⟨_, lineages, rfl, ?_⟩
    intro name lineage kept
    refine ⟨kept, ?_⟩
    rintro rfl
    rw [missing] at kept
    cases kept

/-- A model keeps its fields, or it takes the lineage of its name and is the first of this name. -/
theorem exists_handOut_eq_append
    (lineages : Std.TreeMap String Lineage)
    (before : List Model)
    (model : Model)
    (after : List Model) :
    ∃ before' image after',
      handOut lineages (before ++ model :: after) = before' ++ image :: after' ∧
      after'.map Model.name = after.map Model.name ∧
      (image = model ∨
        ∃ lineage, lineages[model.name]? = some lineage ∧
          model.name ∉ before.map Model.name ∧ image = lineage.applyTo model) := by
  induction before generalizing lineages with
  | nil =>
      rw [List.nil_append, handOut]
      cases kept : lineages[model.name]? with
      | none =>
          exact ⟨[], model, handOut lineages after, rfl, map_name_handOut .., .inl rfl⟩
      | some lineage =>
          exact ⟨[], lineage.applyTo model, handOut (lineages.erase model.name) after, rfl,
            map_name_handOut .., .inr ⟨lineage, rfl, List.not_mem_nil, rfl⟩⟩
  | cons first before ih =>
      rcases exists_handOut_cons_eq lineages first (before ++ model :: after) with
        ⟨firstImage, left, handed, others⟩
      rcases ih left with ⟨before', image, after', split, names, taken⟩
      refine ⟨firstImage :: before', image, after', ?_, names, taken.imp_right ?_⟩
      · rw [List.cons_append, handed, split, List.cons_append]
      · rintro ⟨lineage, kept, fresh, same⟩
        rcases others model.name lineage kept with ⟨found, differs⟩
        refine ⟨lineage, found, ?_, same⟩
        rw [List.map_cons, List.mem_cons, not_or]
        exact ⟨differs, fresh⟩

/-! ## What a flattened graph has of each name -/

theorem mem_keys_ofModels {models : List Model} {name : String} :
    name ∈ (ofModels models).keys ↔ name ∈ models.map Model.name := by
  simp only [ofModels, NameMap.mem_keys_ofList, List.map_map, Function.comp_def]

theorem get?_ofModels_of_last
    {before after : List Model} {model : Model}
    (last : model.name ∉ after.map Model.name) :
    (ofModels (before ++ model :: after)).get? model.name = some model := by
  rw [ofModels, List.map_append, List.map_cons]
  apply NameMap.get?_ofList_of_last
  intro entry listed same
  rcases List.mem_map.mp listed with ⟨other, member, rfl⟩
  apply last
  rw [← same]
  exact List.mem_map_of_mem member

/-- No model further down in key order has the name of a model. -/
def LastOfName (graph : ModelGraph) (key : String) (model : Model) : Prop :=
  ∀ entry ∈ graph.entries, entry.2.name = model.name → entry.1 ≤ key

instance (graph : ModelGraph) (key : String) (model : Model) :
    Decidable (graph.LastOfName key model) :=
  inferInstanceAs
    (Decidable (∀ entry ∈ graph.entries, entry.2.name = model.name → entry.1 ≤ key))

theorem WellKeyed.lastOfName
    {key : String} {model : Model}
    (keyed : graph.WellKeyed)
    (stored : graph.get? key = some model) :
    graph.LastOfName key model := by
  intro entry listed same
  have here : key = entry.1 := by
    rw [← keyed entry listed, same, keyed.name_eq stored]
  cases here
  exact String.le_refl entry.1

/-- After the last model of a name, no model has that name. -/
theorem LastOfName.exists_models_eq
    {key : String} {model : Model}
    (last : graph.LastOfName key model)
    (stored : graph.get? key = some model) :
    ∃ before after, graph.models = before ++ model :: after ∧
      model.name ∉ after.map Model.name := by
  rcases List.append_of_mem (NameMap.mem_entries_iff.mpr stored) with ⟨before, after, split⟩
  refine ⟨before.map Prod.snd, after.map Prod.snd, ?_, ?_⟩
  · rw [models, NameMap.values, split, List.map_append, List.map_cons]
  · intro shared
    rcases List.mem_map.mp shared with ⟨other, listed, same⟩
    rcases List.mem_map.mp listed with ⟨entry, member, rfl⟩
    have further : key < entry.1 := NameMap.lt_of_entries_eq_append split entry member
    have present : entry ∈ graph.entries := by
      rw [split]
      exact List.mem_append_right _ (List.mem_cons_of_mem _ member)
    exact last entry present same further

/-- The last model of a name stays under this name and loses no field. -/
theorem exists_image_of_lastOfName
    {key : String} {model : Model}
    (done : graph.flatten = .ok flattening)
    (stored : graph.get? key = some model)
    (last : graph.LastOfName key model) :
    ∃ image, flattening.graph.get? model.name = some image ∧
      image.name = model.name ∧ model.fieldNames ⊆ image.fieldNames := by
  rcases exists_reached_of_flatten done with ⟨descent, _, reached, result, _, _⟩
  rcases last.exists_models_eq stored with ⟨before, after, split, lastInList⟩
  rcases exists_handOut_eq_append descent.lineages before model after with
    ⟨before', image, after', handed, names, taken⟩
  have named : image.name = model.name := by
    rcases taken with rfl | ⟨lineage, _, _, rfl⟩ <;> rfl
  refine ⟨image, ?_, named, ?_⟩
  · rw [result, split, handed, ← named]
    apply get?_ofModels_of_last
    rw [names, named]
    exact lastInList
  · rcases taken with rfl | ⟨lineage, kept, fresh, rfl⟩
    · exact List.Subset.refl _
    · -- No other model has this name, so it is its own lineage that it takes.
      rcases reached.holdsOwn.left kept with ⟨owner, listed, shared, declared⟩
      rw [split, List.mem_append, List.mem_cons] at listed
      rcases listed with earlier | rfl | later
      · exact absurd (shared ▸ List.mem_map_of_mem earlier) fresh
      · exact declared
      · exact absurd (shared ▸ List.mem_map_of_mem later) lastInList

/--
A flattened graph has the names of the models for keys.  The last model of each name
stays and loses no field; in a well-keyed graph, this is every model, under its key.
-/
theorem flatten_keys_by_name (done : graph.flatten = .ok flattening) :
    (∀ name, name ∈ flattening.graph.keys ↔ ∃ model ∈ graph.models, model.name = name) ∧
    (∀ key model, graph.get? key = some model → graph.LastOfName key model →
      ∃ image, flattening.graph.get? model.name = some image ∧
        image.name = model.name ∧ model.fieldNames ⊆ image.fieldNames) ∧
    (graph.WellKeyed →
      flattening.graph.keys = graph.keys ∧
      ∀ key model, graph.get? key = some model →
        ∃ image, flattening.graph.get? key = some image ∧
          model.fieldNames ⊆ image.fieldNames) := by
  refine ⟨?names, ?fields, ?wellKeyed⟩
  case names =>
    rcases exists_reached_of_flatten done with ⟨descent, _, _, result, _, _⟩
    intro name
    rw [result, mem_keys_ofModels, map_name_handOut]
    exact List.mem_map
  case fields =>
    intro key model stored last
    exact exists_image_of_lastOfName done stored last
  case wellKeyed =>
    intro keyed
    refine ⟨(flattens_of_flatten keyed done).keys, ?_⟩
    intro key model stored
    rcases exists_image_of_lastOfName done stored (keyed.lastOfName stored) with
      ⟨image, found, _, declared⟩
    rw [keyed.name_eq stored] at found
    exact ⟨image, found, declared⟩

/-- Two models are named alike, the second of which has fields of its own to lose. -/
def sharingNames : ModelGraph :=
  .ofList
    [("Cat", ⟨"Pet", [⟨"purr", .primitive .boolean, false⟩], ∅, ["Owner"]⟩),
      ("Dog", ⟨"Pet", [⟨"bark", .primitive .string, false⟩], ∅, []⟩),
      ("Owner", ⟨"Person", [⟨"age", .primitive .integer, false⟩], ∅, []⟩)]

theorem flatten_keys_by_name_shared :
    ∃ flattening image,
      sharingNames.flatten = .ok flattening ∧
      "Dog" ∉ flattening.graph.keys ∧
      flattening.graph.get? "Pet" = some image ∧
      "bark" ∈ image.fieldNames := by
  have succeeds : sharingNames.flatten.isOk = true := by
    decide +kernel
  rcases exists_of_isOk succeeds with ⟨flattening, done⟩
  have dog : sharingNames.get? "Dog" =
      some ⟨"Pet", [⟨"bark", .primitive .string, false⟩], ∅, []⟩ := by
    decide +kernel
  rcases flatten_keys_by_name done with ⟨names, fields, -⟩
  rcases fields "Dog" _ dog (by decide +kernel) with ⟨image, found, _, declared⟩
  refine ⟨flattening, image, done, ?_, found, declared List.mem_cons_self⟩
  rw [names]
  decide +kernel

/-- A document of two models without names, the first of which has a field. -/
def unnamed : String :=
  "\x7b\"Dog\":\x7b\"fields\":[\x7b\"name\":\"bark\"," ++
    "\"type\":\x7b\"kind\":\"primitive\",\"type\":\"string\"\x7d\x7d]\x7d," ++
    "\"Pet\":\x7b\x7d\x7d"

def unnamedDog : Model :=
  ⟨"", [⟨"bark", .primitive .string, false⟩], ∅, []⟩

/-- Where models are decoded and not named by their keys, flattening may lose one and its fields. -/
theorem exists_keys_flatten_ne :
    ∃ graph flattening dog,
      ofText unnamed = .ok graph ∧
      graph.flatten = .ok flattening ∧
      graph.get? "Dog" = some dog ∧
      "bark" ∈ dog.fieldNames ∧
      graph.keys = ["Dog", "Pet"] ∧
      flattening.graph.keys = [""] ∧
      ∀ image ∈ flattening.graph.models, "bark" ∉ image.fieldNames := by
  have decoded : (ofText unnamed).toOption =
      some (.ofList [("Dog", unnamedDog), ("Pet", .named "")]) := by
    decide +kernel
  have flattened :
      ((flatten (.ofList [("Dog", unnamedDog), ("Pet", .named "")])).toOption.map
        Flattening.graph) = some (.ofList [("", .named "")]) := by
    decide +kernel
  rcases Option.map_eq_some_iff.mp flattened with ⟨flattening, done, result⟩
  refine ⟨_, flattening, unnamedDog, ok_of_toOption_eq_some decoded,
    ok_of_toOption_eq_some done, ?_⟩
  rw [result]
  decide +kernel

end ModelGraph

end ModelLineage
