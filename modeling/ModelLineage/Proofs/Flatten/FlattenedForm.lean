import ModelLineage.Proofs.Flatten.Collected

/-!
# The flattened form of a graph

A flattened graph has the keys of the original, and each of its models is
composed of the original and of the flattened models that this inherits from.
Where all names are grounded, only one graph is of this form.  Flattening a
well-keyed graph gives it, and its flattened form is a flattened form of itself.
-/

namespace ModelLineage

namespace ModelGraph

variable {graph flat flat' : ModelGraph}

/-- Every model of a graph is composed of an original and of what that inherits from. -/
structure Flattens (flat graph : ModelGraph) : Prop where
  keys : flat.keys = graph.keys
  composed : ∀ {name model}, graph.get? name = some model →
    ∃ image, flat.get? name = some image ∧
      image.ComposedOf model (model.ancestors.filterMap flat.get?)

namespace Flattens

theorem contains_eq (flattens : flat.Flattens graph) (name : String) :
    flat.contains name = graph.contains name := by
  rw [Bool.eq_iff_iff, NameMap.contains_iff_mem_keys, NameMap.contains_iff_mem_keys,
    flattens.keys]

theorem get?_eq_none_iff
    (flattens : flat.Flattens graph)
    {name : String} :
    flat.get? name = none ↔ graph.get? name = none := by
  have same := flattens.contains_eq name
  rw [NameMap.contains, NameMap.contains] at same
  rw [← Option.not_isSome_iff_eq_none, ← Option.not_isSome_iff_eq_none, same]

/-- The model under a name and the original that it is composed of. -/
theorem original
    {name : String} {image : Model}
    (flattens : flat.Flattens graph)
    (found : flat.get? name = some image) :
    ∃ model, graph.get? name = some model ∧
      image.ComposedOf model (model.ancestors.filterMap flat.get?) := by
  cases stored : graph.get? name with
  | none =>
      rw [flattens.get?_eq_none_iff.mpr stored] at found
      cases found
  | some model =>
      rcases flattens.composed stored with ⟨image', found', composed⟩
      cases Option.some.inj (found.symm.trans found')
      exact ⟨model, rfl, composed⟩

theorem wellKeyed
    (keyed : graph.WellKeyed)
    (flattens : flat.Flattens graph) :
    flat.WellKeyed := by
  intro entry member
  have found : flat.get? entry.1 = some entry.2 := NameMap.mem_entries_iff.mp member
  rcases flattens.original found with ⟨model, stored, composed⟩
  rw [composed.name]
  exact keyed.name_eq stored

/-- A flattened model has a field for each name that a listed ancestor has. -/
theorem mem_fieldNames_of_inherits
    {heir source name : String} {image parent : Model}
    (flattens : flat.Flattens graph)
    (inherits : graph.Inherits heir source)
    (imageFound : flat.get? heir = some image)
    (parentFound : flat.get? source = some parent)
    (declared : name ∈ parent.fieldNames) :
    name ∈ image.fieldNames := by
  rcases inherits with ⟨own, stored, listed, _⟩
  rcases flattens.composed stored with ⟨image', imageFound', composed⟩
  cases Option.some.inj (imageFound.symm.trans imageFound')
  apply composed.mem_fieldNames_iff.mpr
  exact .inr ⟨parent, List.mem_filterMap.mpr ⟨source, listed, parentFound⟩,
    Model.declares_iff.mpr declared⟩

/-- A flattened model has a field for each name that a model further up has. -/
theorem fieldNames_subset_of_reaches
    {heir source : String} {image parent : Model}
    (flattens : flat.Flattens graph)
    (reaches : Relation.ReflTransGen graph.Inherits heir source)
    (imageFound : flat.get? heir = some image)
    (parentFound : flat.get? source = some parent) :
    parent.fieldNames ⊆ image.fieldNames := by
  induction reaches using Relation.ReflTransGen.head_induction_on generalizing image with
  | refl =>
      cases Option.some.inj (imageFound.symm.trans parentFound)
      exact List.Subset.refl _
  | @head heir middle inherits _ ih =>
      rcases inherits with ⟨own, stored, listed, present⟩
      rcases NameMap.contains_iff.mp present with ⟨middleOwn, middleStored⟩
      rcases flattens.composed middleStored with ⟨between, betweenFound, _⟩
      intro name declared
      exact flattens.mem_fieldNames_of_inherits ⟨own, stored, listed, present⟩ imageFound
        betweenFound (ih betweenFound declared)

/-- A flattened graph is composed of itself as well. -/
theorem again (flattens : flat.Flattens graph) : flat.Flattens flat where
  keys := rfl
  composed := by
    intro name image found
    rcases flattens.original found with ⟨model, _, composed⟩
    refine ⟨image, found, ?_⟩
    rw [composed.ancestors]
    exact composed.again

/-- Two flattened forms agree on what a grounded name inherits from, and so on the name. -/
theorem get?_unique
    {name : String}
    (flattens : flat.Flattens graph)
    (flattens' : flat'.Flattens graph)
    (grounded : graph.Grounded name) :
    flat.get? name = flat'.get? name := by
  induction grounded with
  | intro name _ ih =>
      cases stored : graph.get? name with
      | none =>
          rw [flattens.get?_eq_none_iff.mpr stored, flattens'.get?_eq_none_iff.mpr stored]
      | some model =>
          have sameSources :
              model.ancestors.filterMap flat.get? = model.ancestors.filterMap flat'.get? := by
            apply List.filterMap_congr
            intro ancestor listed
            cases known : graph.get? ancestor with
            | none =>
                rw [flattens.get?_eq_none_iff.mpr known, flattens'.get?_eq_none_iff.mpr known]
            | some parent =>
                exact ih ancestor
                  ⟨model, stored, listed, NameMap.contains_iff.mpr ⟨parent, known⟩⟩
          rcases flattens.composed stored with ⟨image, found, composed⟩
          rcases flattens'.composed stored with ⟨image', found', composed'⟩
          rw [sameSources] at composed
          rw [found, found', composed.unique composed']

/-- A graph of grounded names has at most one flattened form. -/
theorem unique
    (flattens : flat.Flattens graph)
    (flattens' : flat'.Flattens graph)
    (grounded : ∀ name, graph.Grounded name) :
    flat = flat' :=
  NameMap.ext_get? fun name => flattens.get?_unique flattens' (grounded name)

end Flattens

/-! ## Handing out the lineages -/

/-- Where no name is shared, every model takes the lineage of its name. -/
theorem handOut_eq_map
    {models : List Model}
    (lineages : Std.TreeMap String Lineage)
    (distinct : (models.map Model.name).Nodup) :
    handOut lineages models =
      models.map fun model =>
        ((lineages[model.name]?).map fun lineage => lineage.applyTo model).getD model := by
  induction models generalizing lineages with
  | nil => rfl
  | cons model models ih =>
      rw [List.map_cons, List.nodup_cons] at distinct
      rw [handOut, List.map_cons]
      split
      · rename_i lineage kept
        rw [ih _ distinct.2, kept]
        congr 1
        apply List.map_congr_left
        intro other listed
        have differs : model.name ≠ other.name := by
          intro same
          apply distinct.1
          rw [same]
          exact List.mem_map_of_mem listed
        have looked :
            (lineages.erase model.name)[other.name]? = lineages[other.name]? := by
          simp only [Std.TreeMap.getElem?_erase, Std.LawfulEqCmp.compare_eq_iff_eq,
            if_neg differs]
        rw [looked]
      · rename_i missing
        rw [ih _ distinct.2, missing]
        rfl

/-- The models of a well-keyed graph with the lineages of their names. -/
theorem ofModels_handOut
    (keyed : graph.WellKeyed)
    (lineages : Std.TreeMap String Lineage) :
    ofModels (handOut lineages graph.models) =
      NameMap.map
        (fun name model =>
          ((lineages[name]?).map fun lineage => lineage.applyTo model).getD model)
        graph := by
  rw [handOut_eq_map lineages keyed.nodup_names, ofModels, models, NameMap.values, List.map_map,
    List.map_map]
  rw [← NameMap.ofList_entries (NameMap.map _ graph)]
  congr 1
  apply List.map_congr_left
  intro entry member
  have named : entry.2.name = entry.1 := keyed entry member
  simp only [Function.comp_apply, named]
  cases lineages[entry.1]? with
  | none => exact congrArg (fun name => (name, entry.2)) named
  | some lineage => exact congrArg (fun name => (name, lineage.applyTo entry.2)) named

end ModelGraph

namespace Descent

variable {graph : ModelGraph} {descent : Descent}

/-- When the stack is empty, a name with a mark has been left. -/
theorem Traversal.left_of_marked
    {name : String}
    (traversal : Traversal graph descent [])
    (marked : descent.marks.contains name = true) :
    descent.marks[name]? = some .left := by
  cases known : descent.marks[name]? with
  | none =>
      rw [Std.TreeMap.contains_eq_isSome_getElem?, known] at marked
      cases marked
  | some mark =>
      cases mark with
      | left => rfl
      | entered =>
          have listed := (traversal.entered name).mp known
          rw [traversal.trail] at listed
          cases listed

end Descent

namespace ModelGraph

variable {graph : ModelGraph} {flattening : Flattening}

/-! ## Flattening gives the flattened form -/

/-- A flattened graph comes from a reached state of the descent that marks all models. -/
theorem exists_reached_of_flatten (done : graph.flatten = .ok flattening) :
    ∃ descent, Descent.ofGraph graph = .ok descent ∧
      Descent.Reached graph descent [] ∧
      flattening.graph = ofModels (handOut descent.lineages graph.models) ∧
      flattening.report = descent.report ∧
      ∀ name ∈ graph.models.map Model.name, descent.marks.contains name = true := by
  have arrived := Descent.arrives_ofGraph graph
  rw [flatten] at done
  cases walked : Descent.ofGraph graph with
  | error interruption =>
      rw [walked] at done
      cases done
  | ok descent =>
      rw [walked] at done arrived
      cases done
      exact ⟨descent, rfl, arrived.1, rfl, rfl, arrived.2⟩

/-- In a well-keyed graph, the descent has left every key. -/
theorem reached_of_flatten
    (keyed : graph.WellKeyed)
    (done : graph.flatten = .ok flattening) :
    ∃ descent, Descent.ofGraph graph = .ok descent ∧
      Descent.Reached graph descent [] ∧
      flattening.graph = ofModels (handOut descent.lineages graph.models) ∧
      flattening.report = descent.report ∧
      ∀ {name model}, graph.get? name = some model → descent.marks[name]? = some .left := by
  rcases exists_reached_of_flatten done with ⟨descent, walked, reached, same, report, marked⟩
  refine ⟨descent, walked, reached, same, report, ?_⟩
  intro name model found
  have stored : model ∈ graph.models := NameMap.mem_values_iff.mpr ⟨name, found⟩
  rw [← keyed.name_eq found]
  apply (reached.traversal keyed).left_of_marked
  exact marked model.name (List.mem_map_of_mem stored)

/-- A graph that can be flattened has no cycle. -/
theorem grounded_of_flatten
    (keyed : graph.WellKeyed)
    (done : graph.flatten = .ok flattening)
    (name : String) :
    graph.Grounded name := by
  rcases reached_of_flatten keyed done with ⟨descent, _, reached, _, _, left⟩
  cases stored : graph.get? name with
  | none =>
      apply Acc.intro
      rintro source ⟨model, found, _⟩
      rw [stored] at found
      cases found
  | some model => exact (reached.traversal keyed).grounded name (left stored)

/-- Flattening a well-keyed graph gives its flattened form. -/
theorem flattens_of_flatten
    (keyed : graph.WellKeyed)
    (done : graph.flatten = .ok flattening) :
    flattening.graph.Flattens graph := by
  rcases reached_of_flatten keyed done with ⟨descent, _, reached, same, _, left⟩
  have collected := reached.collected keyed
  have kept : ∀ {name model}, graph.get? name = some model →
      ∃ lineage, descent.lineages[name]? = some lineage :=
    fun stored => ((reached.traversal keyed).left _).mp (left stored)
  rw [ofModels_handOut keyed] at same
  have images : flattening.graph.get? = descent.image? graph := by
    funext name
    rw [same, NameMap.get?_map, Descent.image?]
    cases stored : graph.get? name with
    | none => rfl
    | some model =>
        rcases kept stored with ⟨lineage, found⟩
        rw [found]
        rfl
  constructor
  case keys =>
    rw [same]
    exact NameMap.keys_map ..
  case composed =>
    intro name model stored
    rcases kept stored with ⟨lineage, found⟩
    have image := Descent.image?_eq_some stored found
    rw [images]
    exact ⟨lineage.applyTo model, image, collected.left stored image⟩

end ModelGraph

end ModelLineage
