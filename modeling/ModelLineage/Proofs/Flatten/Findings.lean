import ModelLineage.Proofs.Flatten.FlattenedForm

/-!
# Findings read off the flattened form

A model that inherits from another one reports a conflict for each field that
meets another type under its name.  The descent compares what came together so
far, but the field that keeps a name keeps it for good.  The conflicts are those
between the flattened fields of the two models, and any descent that merges the
two under the same flattened form finds the same ones.
-/

namespace ModelLineage

namespace Descent

variable
    {graph flat : ModelGraph}
    {descent : Descent}
    {stack outer : List OpenModel}
    {opened : OpenModel}

/-- What the descent has for a name that it has left is the flattened model. -/
theorem image?_eq_get?
    {name : String}
    (flattens : flat.Flattens graph)
    (traversal : Traversal graph descent stack)
    (collected : Collected graph descent stack)
    (left : descent.marks[name]? = some .left) :
    descent.image? graph name = flat.get? name := by
  have grounded : graph.Grounded name := traversal.grounded name left
  induction grounded with
  | intro name _ ih =>
      rcases traversal.finished name left with ⟨model, stored, ancestorsLeft⟩
      rcases (traversal.left name).mp left with ⟨lineage, kept⟩
      have sameSources :
          model.ancestors.filterMap (descent.image? graph) =
            model.ancestors.filterMap flat.get? := by
        apply List.filterMap_congr
        intro ancestor listed
        cases known : graph.get? ancestor with
        | none =>
            rw [image?_eq_none_of_missing known, flattens.get?_eq_none_iff.mpr known]
        | some parent =>
            have present : graph.contains ancestor = true :=
              NameMap.contains_iff.mpr ⟨parent, known⟩
            exact ih ancestor ⟨model, stored, listed, present⟩
              (ancestorsLeft ancestor listed present)
      have image := image?_eq_some stored kept
      have composed := collected.left stored image
      rcases flattens.composed stored with ⟨flattened, found, composed'⟩
      rw [sameSources] at composed
      rw [image, found, composed.unique composed']

/-- An open model has inherited from the flattened models of the ancestors it has passed. -/
theorem composedOf_passed
    (flattens : flat.Flattens graph)
    (traversal : Traversal graph descent stack)
    (collected : Collected graph descent stack)
    (member : opened ∈ stack) :
    opened.image.ComposedOf opened.model
      ((opened.model.ancestors.take opened.next).filterMap flat.get?) := by
  have sameSources :
      (opened.model.ancestors.take opened.next).filterMap (descent.image? graph) =
        (opened.model.ancestors.take opened.next).filterMap flat.get? := by
    apply List.filterMap_congr
    intro ancestor listed
    cases known : graph.get? ancestor with
    | none => rw [image?_eq_none_of_missing known, flattens.get?_eq_none_iff.mpr known]
    | some parent =>
        apply image?_eq_get? flattens traversal collected
        apply traversal.passed opened member ancestor listed
        exact NameMap.contains_iff.mpr ⟨parent, known⟩
  rw [← sameSources]
  exact collected.opened opened member

/--
A field that an open model is offered meets the same field whether it is looked
up in what came together so far or in the flattened model.
-/
theorem find?_offered
    {ancestor name : String} {heir source : Model}
    (flattens : flat.Flattens graph)
    (traversal : Traversal graph descent (opened :: outer))
    (collected : Collected graph descent (opened :: outer))
    (listed : opened.model.ancestors[opened.next]? = some ancestor)
    (heirFound : flat.get? opened.model.name = some heir)
    (sourceFound : flat.get? ancestor = some source)
    (offered : name ∈ source.fieldNames) :
    ((opened.roster.toList ++ source.fields).find? fun field => field.name = name) =
      heir.fields.find? fun field => field.name = name := by
  have stored := traversal.stored opened List.mem_cons_self
  rcases flattens.composed stored with ⟨image, imageFound, composed⟩
  cases Option.some.inj (heirFound.symm.trans imageFound)
  have before := composedOf_passed flattens traversal collected List.mem_cons_self
  have rosterFields : opened.roster.toList = _ := before.fields
  have ordered :
      opened.model.ancestors.filterMap flat.get? =
        (opened.model.ancestors.take opened.next).filterMap flat.get? ++ source ::
          (opened.model.ancestors.drop (opened.next + 1)).filterMap flat.get? := by
    rcases List.getElem?_eq_some_iff.mp listed with ⟨within, same⟩
    have split := List.take_append_drop opened.next opened.model.ancestors
    rw [List.drop_eq_getElem_cons within, same] at split
    rw [← List.filterMap_cons_some sourceFound, ← List.filterMap_append, split]
  have met : (source.fields.find? fun field => field.name = name).isSome := by
    rcases List.mem_map.mp offered with ⟨field, member, named⟩
    rw [List.find?_isSome]
    exact ⟨field, member, decide_eq_true named⟩
  rcases Option.isSome_iff_exists.mp met with ⟨field, first⟩
  -- The offered fields have the name, so what the later ancestors declare is not looked at.
  rw [composed.fields, rosterFields, ordered, List.flatMap_append, List.flatMap_cons]
  simp only [find?_firstDeclarations, List.find?_append, first, Option.some_or,
    Option.or_assoc]

/-- The conflicts that an ancestor brings, read off the flattened models of the two. -/
theorem report_inheritFrom
    {ancestor : String} {heir source : Model}
    (flattens : flat.Flattens graph)
    (traversal : Traversal graph descent (opened :: outer))
    (collected : Collected graph descent (opened :: outer))
    (listed : opened.model.ancestors[opened.next]? = some ancestor)
    (left : descent.marks[ancestor]? = some .left)
    (heirFound : flat.get? opened.model.name = some heir)
    (sourceFound : flat.get? ancestor = some source) :
    (descent.inheritFrom opened ancestor).1.report =
      { descent.report with
        conflicts :=
          descent.report.conflicts ++
            (conflictsBetween opened.model.name heir.fields ancestor source.fields).toArray } := by
  rcases (traversal.left ancestor).mp left with ⟨lineage, kept⟩
  have image := image?_eq_get? flattens traversal collected left
  rcases traversal.finished ancestor left with ⟨parent, stored, _⟩
  rw [image?_eq_some stored kept, sourceFound] at image
  have offered : lineage.fields = source.fields := congrArg Model.fields (Option.some.inj image)
  have brought :
      (opened.inherit ancestor lineage).2.toList =
        conflictsBetween opened.model.name heir.fields ancestor source.fields := by
    rw [OpenModel.conflicts_inherit (collected.indexed opened List.mem_cons_self), offered]
    apply conflictsBetween_congr
    intro field member
    exact find?_offered flattens traversal collected listed heirFound sourceFound
      (List.mem_map_of_mem member)
  rw [inheritFrom, kept, ← brought, Array.toArray_toList]
  rfl

end Descent

end ModelLineage
