import Mathlib.Data.List.Chain
import ModelLineage.Proofs.Flatten.Ancestry
import ModelLineage.Proofs.Flatten.Trail

/-!
# The state of the descent

In a well-keyed graph the trail, the stack, the marks and the lineages of the
descent stay in step.  The trail names the open models from the innermost
outward, each of which the next one lists as the ancestor that it waits for.
The names entered are those on the trail, and the names left are those with a
lineage.  All that a left model inherits from was left before it, so a left name
is grounded.
-/

namespace ModelLineage

namespace Descent

variable {graph : ModelGraph} {descent descent' : Descent} {stack outer : List OpenModel}

/-- An open model that waits for no ancestor has passed them all. -/
theorem take_of_exhausted
    {opened : OpenModel}
    (exhausted : opened.model.ancestors[opened.next]? = none) :
    opened.model.ancestors.take opened.next = opened.model.ancestors :=
  List.take_of_length_le (List.getElem?_eq_none_iff.mp exhausted)

/-- The descent and its stack are in step. -/
structure Traversal
    (graph : ModelGraph)
    (descent : Descent)
    (stack : List OpenModel) : Prop where
  stored : ∀ opened ∈ stack, graph.get? opened.model.name = some opened.model
  trail : descent.trail = stack.map fun opened => opened.model.name
  distinct : descent.trail.Nodup
  entered : ∀ name : String, descent.marks[name]? = some .entered ↔ name ∈ descent.trail
  left : ∀ name : String,
    descent.marks[name]? = some .left ↔ ∃ lineage, descent.lineages[name]? = some lineage
  linked : stack.IsChain fun inner outer =>
    outer.model.ancestors[outer.next]? = some inner.model.name
  /-- The ancestors before the one that an open model waits for have been left. -/
  passed : ∀ opened ∈ stack, ∀ ancestor ∈ opened.model.ancestors.take opened.next,
    graph.contains ancestor = true → descent.marks[ancestor]? = some .left
  finished : ∀ name : String, descent.marks[name]? = some .left →
    ∃ model, graph.get? name = some model ∧
      ∀ ancestor ∈ model.ancestors,
        graph.contains ancestor = true → descent.marks[ancestor]? = some .left
  grounded : ∀ name : String, descent.marks[name]? = some .left → graph.Grounded name

namespace Traversal

theorem start : Traversal graph .start [] where
  stored := by simp
  trail := Trailed.start.trail
  distinct := Trailed.start.distinct
  entered := Trailed.start.entered
  left := by
    intro name
    simp [Descent.start]
  linked := .nil
  passed := by simp
  finished := by
    intro name marked
    simp [Descent.start] at marked
  grounded := by
    intro name marked
    simp [Descent.start] at marked

theorem trailed (traversal : Traversal graph descent stack) : Trailed descent stack where
  trail := traversal.trail
  distinct := traversal.distinct
  entered := traversal.entered

theorem opened_entered
    {opened : OpenModel}
    (traversal : Traversal graph descent (opened :: outer)) :
    descent.marks[opened.model.name]? = some .entered := by
  rw [traversal.entered, traversal.trail]
  exact List.mem_cons_self

/-- Entering a model without a mark, which the innermost open model waits for. -/
theorem enter
    {parent : Model}
    (traversal : Traversal graph descent stack)
    (stored : graph.get? parent.name = some parent)
    (unmarked : descent.marks[parent.name]? = none)
    (awaited : ∀ opened ∈ stack.head?,
      opened.model.ancestors[opened.next]? = some parent.name) :
    Traversal graph (descent.descendTo parent) (OpenModel.ofModel parent :: stack) := by
  have trailed := traversal.trailed.enter unmarked
  constructor
  case stored =>
    intro opened member
    rcases List.mem_cons.mp member with rfl | below
    · exact stored
    · exact traversal.stored opened below
  case trail => exact trailed.trail
  case distinct => exact trailed.distinct
  case entered => exact trailed.entered
  case left =>
    intro name
    rw [left_descendTo_iff unmarked, traversal.left name]
    rfl
  case linked => exact traversal.linked.cons awaited
  case passed =>
    intro opened member ancestor listed present
    rw [left_descendTo_iff unmarked]
    rcases List.mem_cons.mp member with rfl | below
    · simp [OpenModel.ofModel] at listed
    · exact traversal.passed opened below ancestor listed present
  case finished =>
    intro name marked
    rcases traversal.finished name ((left_descendTo_iff unmarked).mp marked) with
      ⟨model, found, ancestorsLeft⟩
    refine ⟨model, found, ?_⟩
    intro ancestor listed present
    exact (left_descendTo_iff unmarked).mpr (ancestorsLeft ancestor listed present)
  case grounded =>
    intro name marked
    exact traversal.grounded name ((left_descendTo_iff unmarked).mp marked)

/--
Going on to the next ancestor, where marks, trail and lineages stay and the
ancestor passed has been left unless it has no model.
-/
theorem advance
    {opened opened' : OpenModel}
    (traversal : Traversal graph descent (opened :: outer))
    (marks : descent'.marks = descent.marks)
    (trail : descent'.trail = descent.trail)
    (lineages : descent'.lineages = descent.lineages)
    (sameModel : opened'.model = opened.model)
    (next : opened'.next = opened.next + 1)
    (left : ∀ ancestor : String, opened.model.ancestors[opened.next]? = some ancestor →
      graph.contains ancestor = true → descent.marks[ancestor]? = some .left) :
    Traversal graph descent' (opened' :: outer) := by
  have trailed := traversal.trailed.advance marks trail sameModel
  constructor
  case stored =>
    intro other member
    rcases List.mem_cons.mp member with rfl | below
    · rw [sameModel]
      exact traversal.stored opened List.mem_cons_self
    · exact traversal.stored other (List.mem_cons_of_mem _ below)
  case trail => exact trailed.trail
  case distinct => exact trailed.distinct
  case entered => exact trailed.entered
  case left =>
    intro name
    rw [marks, lineages]
    exact traversal.left name
  case linked =>
    rcases List.isChain_cons.mp traversal.linked with ⟨first, rest⟩
    rw [← sameModel] at first
    exact List.isChain_cons.mpr ⟨first, rest⟩
  case passed =>
    intro other member ancestor listed present
    rw [marks]
    rcases List.mem_cons.mp member with rfl | below
    · rw [sameModel, next, List.take_add_one, List.mem_append] at listed
      rcases listed with earlier | last
      · exact traversal.passed opened List.mem_cons_self ancestor earlier present
      · exact left ancestor (by simpa using last) present
    · exact traversal.passed other (List.mem_cons_of_mem _ below) ancestor listed present
  case finished =>
    rw [marks]
    exact traversal.finished
  case grounded =>
    rw [marks]
    exact traversal.grounded

/-- All ancestors of an open model that waits for none have been left. -/
theorem ancestors_left
    {opened : OpenModel}
    (traversal : Traversal graph descent (opened :: outer))
    (exhausted : opened.model.ancestors[opened.next]? = none) :
    ∀ ancestor ∈ opened.model.ancestors,
      graph.contains ancestor = true → descent.marks[ancestor]? = some .left := by
  have passed := traversal.passed opened List.mem_cons_self
  rwa [take_of_exhausted exhausted] at passed

/-- Leaving a model that has passed all its ancestors. -/
theorem close
    {opened : OpenModel}
    (traversal : Traversal graph descent (opened :: outer))
    (exhausted : opened.model.ancestors[opened.next]? = none) :
    Traversal graph (descent.close opened) outer := by
  have stored := traversal.stored opened List.mem_cons_self
  have trailed := traversal.trailed.close
  have ancestorsLeft := traversal.ancestors_left exhausted
  constructor
  case stored =>
    intro below member
    exact traversal.stored below (List.mem_cons_of_mem _ member)
  case trail => exact trailed.trail
  case distinct => exact trailed.distinct
  case entered => exact trailed.entered
  case left =>
    intro name
    rw [left_close_iff, traversal.left name]
    show _ ↔ ∃ lineage, (descent.lineages.insert opened.model.name _)[name]? = some lineage
    rw [getElem?_insert_name]
    split
    · rename_i same
      simp [same]
    · rename_i other
      simp [Ne.symm other]
  case linked => exact traversal.linked.tail
  case passed =>
    intro below member ancestor listed present
    apply left_close_iff.mpr
    exact .inr
      (traversal.passed below (List.mem_cons_of_mem _ member) ancestor listed present)
  case finished =>
    intro name marked
    rcases left_close_iff.mp marked with rfl | before
    · refine ⟨opened.model, stored, ?_⟩
      intro ancestor listed present
      exact left_close_iff.mpr (.inr (ancestorsLeft ancestor listed present))
    · rcases traversal.finished name before with ⟨model, found, earlierLeft⟩
      refine ⟨model, found, ?_⟩
      intro ancestor listed present
      exact left_close_iff.mpr (.inr (earlierLeft ancestor listed present))
  case grounded =>
    intro name marked
    rcases left_close_iff.mp marked with rfl | before
    · apply Acc.intro
      rintro source ⟨model, found, listed, present⟩
      cases Option.some.inj (stored.symm.trans found)
      exact traversal.grounded source (ancestorsLeft source listed present)
    · exact traversal.grounded name before

/-- Every rule keeps the descent and its stack in step. -/
theorem next
    {opened : OpenModel}
    (keyed : graph.WellKeyed)
    (traversal : Traversal graph descent (opened :: outer))
    (rule : Rule graph descent opened outer (.next descent' stack)) :
    Traversal graph descent' stack := by
  cases rule with
  | close exhausted => exact traversal.close exhausted
  | skip listed missing =>
      refine traversal.advance ?_ ?_ ?_ ?_ ?_ ?_
      iterate 5 rfl
      intro ancestor listed' present
      cases Option.some.inj (listed.symm.trans listed')
      rw [NameMap.contains, missing] at present
      cases present
  | @collect ancestor parent listed found left =>
      have kept := inheritFrom_keeps descent opened ancestor
      have next :
          (descent.inheritFrom opened ancestor).2.advance.next = opened.next + 1 :=
        congrArg (· + 1) kept.2
      refine traversal.advance (marks_inheritFrom descent opened ancestor)
        (trail_inheritFrom descent opened ancestor)
        (lineages_inheritFrom descent opened ancestor) kept.1 next ?_
      intro ancestor' listed' _
      cases Option.some.inj (listed.symm.trans listed')
      rw [keyed.name_eq found] at left
      exact left
  | @enter ancestor parent listed found unmarked =>
      have named := keyed.name_eq found
      apply traversal.enter _ unmarked
      · intro head isHead
        cases isHead
        rw [named]
        exact listed
      · rw [named]
        exact found

end Traversal

/-- In a well-keyed graph the descent is in step with its stack in every reached state. -/
theorem Reached.traversal
    (keyed : graph.WellKeyed)
    (reached : Reached graph descent stack) :
    Traversal graph descent stack := by
  induction reached with
  | start => exact .start
  | enter _ stored unmarked ih => exact ih.enter (keyed.get?_name stored) unmarked (by simp)
  | step _ rule ih => exact ih.next keyed rule

end Descent

end ModelLineage
