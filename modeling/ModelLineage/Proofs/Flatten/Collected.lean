import ModelLineage.Proofs.Flatten.Composition
import ModelLineage.Proofs.Flatten.Traversal

/-!
# What the descent has collected

A model that has been left is composed of itself and of the models that it
inherits from, as the descent has them.  An open model is composed of itself and
of those among its ancestors that it has passed.  Lineages are only ever added
for models that nobody has passed before, so nothing composed earlier changes.
-/

namespace ModelLineage

namespace Descent

variable {graph : ModelGraph} {descent descent' : Descent} {stack outer : List OpenModel}

/-- A model of the graph with the lineage that the descent has for it. -/
def image? (descent : Descent) (graph : ModelGraph) (name : String) : Option Model :=
  (graph.get? name).bind fun model =>
    (descent.lineages[name]?).map fun lineage => lineage.applyTo model

theorem image?_eq_none_of_missing
    {name : String}
    (missing : graph.get? name = none) :
    descent.image? graph name = none := by
  rw [image?, missing]
  rfl

theorem image?_eq_some
    {name : String} {model : Model} {lineage : Lineage}
    (found : graph.get? name = some model)
    (kept : descent.lineages[name]? = some lineage) :
    descent.image? graph name = some (lineage.applyTo model) := by
  rw [image?, found, kept]
  rfl

theorem image?_close
    {opened : OpenModel}
    (stored : graph.get? opened.model.name = some opened.model)
    (name : String) :
    (descent.close opened).image? graph name =
      if name = opened.model.name then some opened.image else descent.image? graph name := by
  have looked :
      (descent.close opened).lineages[name]? =
        if opened.model.name = name then some ⟨opened.roster.toList, opened.required⟩
        else descent.lineages[name]? :=
    getElem?_insert_name ..
  by_cases same : opened.model.name = name
  · subst same
    rw [if_pos rfl] at looked
    rw [if_pos rfl, image?_eq_some stored looked]
    rfl
  · rw [if_neg same] at looked
    rw [if_neg (Ne.symm same), image?, looked, image?]

/-- Open and left models are composed of what they inherit from. -/
structure Collected
    (graph : ModelGraph)
    (descent : Descent)
    (stack : List OpenModel) : Prop where
  indexed : ∀ opened ∈ stack, opened.roster.Indexed
  opened : ∀ opened ∈ stack,
    opened.image.ComposedOf opened.model
      ((opened.model.ancestors.take opened.next).filterMap (descent.image? graph))
  left : ∀ {name model image}, graph.get? name = some model →
    descent.image? graph name = some image →
      image.ComposedOf model (model.ancestors.filterMap (descent.image? graph))

namespace Collected

theorem start : Collected graph .start [] where
  indexed := by simp
  opened := by simp
  left := by
    intro name model image found known
    simp [image?, found, Descent.start] at known

theorem enter
    (collected : Collected graph descent stack)
    (parent : Model) :
    Collected graph (descent.descendTo parent) (OpenModel.ofModel parent :: stack) where
  indexed := by
    intro opened member
    rcases List.mem_cons.mp member with rfl | below
    · exact OpenModel.indexed_ofModel parent
    · exact collected.indexed opened below
  opened := by
    intro opened member
    rcases List.mem_cons.mp member with rfl | below
    · exact OpenModel.composedOf_ofModel parent
    · exact collected.opened opened below
  left := collected.left

variable {opened : OpenModel} {ancestor : String}

theorem take_advance
    (listed : opened.model.ancestors[opened.next]? = some ancestor) :
    opened.model.ancestors.take (opened.next + 1) =
      opened.model.ancestors.take opened.next ++ [ancestor] := by
  rw [List.take_add_one, listed]
  rfl

theorem skip
    (collected : Collected graph descent (opened :: outer))
    (listed : opened.model.ancestors[opened.next]? = some ancestor)
    (missing : graph.get? ancestor = none) :
    Collected graph (descent.noteDangling opened.model.name ancestor)
      (opened.advance :: outer) where
  indexed := by
    intro other member
    rcases List.mem_cons.mp member with rfl | below
    · exact collected.indexed opened List.mem_cons_self
    · exact collected.indexed other (List.mem_cons_of_mem _ below)
  opened := by
    intro other member
    rcases List.mem_cons.mp member with rfl | below
    · have before := collected.opened opened List.mem_cons_self
      have brought : descent.image? graph ancestor = none := image?_eq_none_of_missing missing
      show opened.image.ComposedOf opened.model
        ((opened.model.ancestors.take (opened.next + 1)).filterMap (descent.image? graph))
      rw [take_advance listed, List.filterMap_append, List.filterMap_cons_none brought,
        List.filterMap_nil, List.append_nil]
      exact before
    · exact collected.opened other (List.mem_cons_of_mem _ below)
  left := collected.left

theorem collect
    {parent : Model} {lineage : Lineage}
    (collected : Collected graph descent (opened :: outer))
    (listed : opened.model.ancestors[opened.next]? = some ancestor)
    (found : graph.get? ancestor = some parent)
    (kept : descent.lineages[ancestor]? = some lineage) :
    Collected graph (descent.inheritFrom opened ancestor).1
      ((descent.inheritFrom opened ancestor).2.advance :: outer) := by
  have indexed := collected.indexed opened List.mem_cons_self
  have same := OpenModel.inherit_keeps opened ancestor lineage
  rw [inheritFrom, kept]
  constructor
  case indexed =>
    intro other member
    rcases List.mem_cons.mp member with rfl | below
    · show (opened.inherit ancestor lineage).1.roster.Indexed
      rw [OpenModel.roster_inherit]
      exact indexed.offerAll lineage.fields
    · exact collected.indexed other (List.mem_cons_of_mem _ below)
  case opened =>
    intro other member
    rcases List.mem_cons.mp member with rfl | below
    · have before := collected.opened opened List.mem_cons_self
      have brought := image?_eq_some found kept
      show (opened.inherit ancestor lineage).1.image.ComposedOf
        (opened.inherit ancestor lineage).1.model
        (((opened.inherit ancestor lineage).1.model.ancestors.take
          ((opened.inherit ancestor lineage).1.next + 1)).filterMap (descent.image? graph))
      rw [same.1, same.2, take_advance listed, List.filterMap_append,
        List.filterMap_cons_some brought, List.filterMap_nil]
      exact OpenModel.composedOf_inherit before indexed ancestor lineage parent
    · exact collected.opened other (List.mem_cons_of_mem _ below)
  case left => exact collected.left

theorem close
    (traversal : Traversal graph descent (opened :: outer))
    (collected : Collected graph descent (opened :: outer))
    (exhausted : opened.model.ancestors[opened.next]? = none) :
    Collected graph (descent.close opened) outer := by
  have stored := traversal.stored opened List.mem_cons_self
  have closedImage : ∀ name, (descent.close opened).image? graph name = _ :=
    image?_close stored
  -- Nobody has passed the model that is being closed, since it was not left before.
  have unchanged : ∀ ancestors : List String,
      (∀ ancestor ∈ ancestors, graph.contains ancestor = true →
        descent.marks[ancestor]? = some .left) →
      ancestors.filterMap ((descent.close opened).image? graph) =
        ancestors.filterMap (descent.image? graph) := by
    intro ancestors passed
    apply List.filterMap_congr
    intro ancestor listed
    rw [closedImage, if_neg]
    rintro rfl
    have present : graph.contains opened.model.name = true :=
      NameMap.contains_iff.mpr ⟨opened.model, stored⟩
    have left := passed opened.model.name listed present
    rw [traversal.opened_entered] at left
    cases left
  constructor
  case indexed =>
    intro below member
    exact collected.indexed below (List.mem_cons_of_mem _ member)
  case opened =>
    intro below member
    rw [unchanged _ (traversal.passed below (List.mem_cons_of_mem _ member))]
    exact collected.opened below (List.mem_cons_of_mem _ member)
  case left =>
    intro name model image found known
    rw [closedImage] at known
    split at known
    · rename_i same
      subst same
      cases Option.some.inj (stored.symm.trans found)
      cases known
      have composed := collected.opened opened List.mem_cons_self
      rw [take_of_exhausted exhausted] at composed
      rw [unchanged _ (traversal.ancestors_left exhausted)]
      exact composed
    · have marked : descent.marks[name]? = some .left := by
        apply (traversal.left name).mpr
        rw [image?, found] at known
        rcases Option.map_eq_some_iff.mp known with ⟨lineage, kept, _⟩
        exact ⟨lineage, kept⟩
      rcases traversal.finished name marked with ⟨model', found', passed⟩
      cases Option.some.inj (found.symm.trans found')
      rw [unchanged _ passed]
      exact collected.left found known

theorem next
    (keyed : graph.WellKeyed)
    (traversal : Traversal graph descent (opened :: outer))
    (collected : Collected graph descent (opened :: outer))
    (rule : Rule graph descent opened outer (.next descent' stack)) :
    Collected graph descent' stack := by
  cases rule with
  | close exhausted => exact collected.close traversal exhausted
  | skip listed missing => exact collected.skip listed missing
  | collect listed found left =>
      rw [keyed.name_eq found] at left
      rcases (traversal.left _).mp left with ⟨lineage, kept⟩
      exact collected.collect listed found kept
  | enter => exact collected.enter _

end Collected

/-- In a well-keyed graph all models are composed of what they inherit from. -/
theorem Reached.collected
    (keyed : graph.WellKeyed)
    (reached : Reached graph descent stack) :
    Collected graph descent stack := by
  induction reached with
  | start => exact .start
  | enter _ _ _ ih => exact ih.enter _
  | step before rule ih => exact ih.next keyed (before.traversal keyed) rule

end Descent

end ModelLineage
