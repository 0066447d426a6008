import Mathlib.Data.List.Nodup
import ModelLineage.Proofs.Flatten.Idempotence
import ModelLineage.Proofs.Outcomes
import ModelLineage.Proofs.Schema.Consistency

/-!
# Every mention of an ancestor is looked at once

The descent passes the mentions of ancestors one after the other.  It interrupts
a model to enter an ancestor and comes back to it later, but no mention is passed
twice and in the end none is left out: those passed are at every moment the
mentions of the models that were closed and those before the places where the
open models wait.

A mention that is passed adds what there is to report about it and nothing else
does.  The report is therefore, up to order, what a plain count over all models
finds: the mentions without a model, and the conflicts between each flattened
model and each flattened model that it mentions.
-/

namespace ModelLineage

/-- A mention of an ancestor, by the names of the model and of the ancestor. -/
abbrev Mention := String × String

/-- The mentions that a model makes. -/
def Model.mentions (model : Model) : List Mention :=
  model.ancestors.map fun ancestor => (model.name, ancestor)

/-- The mentions that an open model has passed. -/
def OpenModel.passed (opened : OpenModel) : List Mention :=
  (opened.model.ancestors.take opened.next).map fun ancestor => (opened.model.name, ancestor)

namespace ModelGraph

variable {graph flat : ModelGraph}

/-- What there is to report about a mention if it has no model. -/
def danglingAt (graph : ModelGraph) (mention : Mention) : List DanglingAncestor :=
  if graph.contains mention.2 then [] else [⟨mention.1, mention.2⟩]

/-- The conflicts of a mention in a flattened graph. -/
def conflictsAt (flat : ModelGraph) (mention : Mention) : List FieldConflict :=
  match flat.get? mention.1, flat.get? mention.2 with
  | some heir, some source =>
    conflictsBetween heir.name heir.fields mention.2 source.fields
  | _, _ => []

/--
All conflicts in a flattened graph: for each model and each ancestor that it
mentions, one for each field of the ancestor that meets a field of another type.
-/
def conflicts (flat : ModelGraph) : List FieldConflict :=
  flat.models.flatMap fun heir =>
    heir.ancestors.flatMap fun ancestor =>
      match flat.get? ancestor with
      | none => []
      | some source => conflictsBetween heir.name heir.fields ancestor source.fields

theorem danglingMentions_eq (graph : ModelGraph) :
    graph.danglingMentions = (graph.models.flatMap Model.mentions).flatMap graph.danglingAt := by
  rw [danglingMentions, List.flatMap_assoc]
  apply List.flatMap_congr
  intro model _
  rw [Model.mentions, List.flatMap_map]
  induction model.ancestors with
  | nil => rfl
  | cons ancestor ancestors ih =>
      rw [List.flatMap_cons, ← ih, List.filter_cons, danglingAt]
      cases known : graph.contains ancestor with
      | true => simp [known]
      | false => simp [known]

theorem conflicts_eq (keyed : flat.WellKeyed) :
    flat.conflicts = (flat.models.flatMap Model.mentions).flatMap flat.conflictsAt := by
  rw [conflicts, List.flatMap_assoc]
  apply List.flatMap_congr
  intro heir listed
  rw [Model.mentions, List.flatMap_map]
  apply List.flatMap_congr
  intro ancestor _
  rw [conflictsAt, keyed.get?_name listed]
  cases flat.get? ancestor <;> rfl

end ModelGraph

namespace Descent

variable
    {graph flat : ModelGraph}
    {descent descent' : Descent}
    {stack outer : List OpenModel}
    {opened : OpenModel}

/-- The mentions passed so far, in their order, with the models that were closed. -/
structure Surveyed
    (graph flat : ModelGraph)
    (descent : Descent)
    (stack : List OpenModel)
    (closed : List Model)
    (passed : List Mention) : Prop where
  dangling : descent.report.dangling.toList = passed.flatMap graph.danglingAt
  conflicts : descent.report.conflicts.toList = passed.flatMap flat.conflictsAt
  balanced : passed.Perm (closed.flatMap Model.mentions ++ stack.flatMap OpenModel.passed)
  stored : ∀ model ∈ closed, graph.get? model.name = some model
  distinct : (closed.map Model.name).Nodup
  left : ∀ name : String, descent.marks[name]? = some .left ↔ name ∈ closed.map Model.name

namespace Surveyed

theorem start : Surveyed graph flat .start [] [] [] where
  dangling := rfl
  conflicts := rfl
  balanced := .nil
  stored := by simp
  distinct := List.nodup_nil
  left := by
    intro name
    simp [Descent.start]

variable {closed : List Model} {passed : List Mention}

theorem enter
    {parent : Model}
    (surveyed : Surveyed graph flat descent stack closed passed)
    (unmarked : descent.marks[parent.name]? = none) :
    Surveyed graph flat (descent.descendTo parent) (OpenModel.ofModel parent :: stack) closed
      passed where
  dangling := surveyed.dangling
  conflicts := surveyed.conflicts
  balanced := surveyed.balanced
  stored := surveyed.stored
  distinct := surveyed.distinct
  left := by
    intro name
    rw [left_descendTo_iff unmarked]
    exact surveyed.left name

/-- Passing one more mention, which adds to the report what there is to say about it. -/
theorem pass
    {opened' : OpenModel} {ancestor : String}
    (surveyed : Surveyed graph flat descent (opened :: outer) closed passed)
    (listed : opened.model.ancestors[opened.next]? = some ancestor)
    (model : opened'.model = opened.model)
    (next : opened'.next = opened.next + 1)
    (marks : descent'.marks = descent.marks)
    (dangling : descent'.report.dangling.toList =
      descent.report.dangling.toList ++ graph.danglingAt (opened.model.name, ancestor))
    (conflicts : descent'.report.conflicts.toList =
      descent.report.conflicts.toList ++ flat.conflictsAt (opened.model.name, ancestor)) :
    Surveyed graph flat descent' (opened' :: outer) closed
      (passed ++ [(opened.model.name, ancestor)]) where
  dangling := by
    rw [dangling, surveyed.dangling, List.flatMap_append, List.flatMap_singleton]
  conflicts := by
    rw [conflicts, surveyed.conflicts, List.flatMap_append, List.flatMap_singleton]
  balanced := by
    have onward : opened'.passed = opened.passed ++ [(opened.model.name, ancestor)] := by
      rw [OpenModel.passed, model, next, Collected.take_advance listed, List.map_append]
      rfl
    have before := surveyed.balanced
    rw [List.flatMap_cons, ← List.append_assoc] at before
    have after := before.append_right [(opened.model.name, ancestor)]
    rw [List.append_assoc] at after
    rw [List.flatMap_cons, onward, List.append_assoc, ← List.append_assoc]
    exact after.trans (List.perm_append_comm.append_left _)
  stored := surveyed.stored
  distinct := surveyed.distinct
  left := by
    intro name
    rw [marks]
    exact surveyed.left name

/-- Closing a model that has passed all its mentions. -/
theorem close
    (surveyed : Surveyed graph flat descent (opened :: outer) closed passed)
    (traversal : Traversal graph descent (opened :: outer))
    (exhausted : opened.model.ancestors[opened.next]? = none) :
    Surveyed graph flat (descent.close opened) outer (opened.model :: closed) passed where
  dangling := surveyed.dangling
  conflicts := surveyed.conflicts
  balanced := by
    have all : opened.passed = opened.model.mentions := by
      rw [OpenModel.passed, take_of_exhausted exhausted]
      rfl
    have before := surveyed.balanced
    rw [List.flatMap_cons, all] at before
    rw [List.flatMap_cons, List.append_assoc]
    exact before.trans (List.perm_append_comm_assoc ..)
  stored := by
    intro model listed
    rcases List.mem_cons.mp listed with rfl | before
    · exact traversal.stored opened List.mem_cons_self
    · exact surveyed.stored model before
  distinct := by
    rw [List.map_cons, List.nodup_cons]
    refine ⟨?_, surveyed.distinct⟩
    intro closedBefore
    have left := (surveyed.left _).mpr closedBefore
    rw [traversal.opened_entered] at left
    cases left
  left := by
    intro name
    rw [left_close_iff, surveyed.left, List.map_cons, List.mem_cons]

theorem skip
    {ancestor : String}
    (surveyed : Surveyed graph flat descent (opened :: outer) closed passed)
    (flattens : flat.Flattens graph)
    (listed : opened.model.ancestors[opened.next]? = some ancestor)
    (missing : graph.get? ancestor = none) :
    Surveyed graph flat (descent.noteDangling opened.model.name ancestor)
      (opened.advance :: outer) closed (passed ++ [(opened.model.name, ancestor)]) := by
  refine surveyed.pass listed rfl rfl rfl ?_ ?_
  · have dangles : graph.contains ancestor = false := by
      rw [NameMap.contains, missing]
      rfl
    simp [noteDangling, ModelGraph.danglingAt, dangles]
  · have silent : flat.conflictsAt (opened.model.name, ancestor) = [] := by
      rw [ModelGraph.conflictsAt, flattens.get?_eq_none_iff.mpr missing]
      split <;> simp_all
    rw [silent, List.append_nil]
    rfl

theorem collect
    {ancestor : String} {parent : Model}
    (surveyed : Surveyed graph flat descent (opened :: outer) closed passed)
    (keyed : graph.WellKeyed)
    (flattens : flat.Flattens graph)
    (reached : Reached graph descent (opened :: outer))
    (listed : opened.model.ancestors[opened.next]? = some ancestor)
    (found : graph.get? ancestor = some parent)
    (left : descent.marks[ancestor]? = some .left) :
    Surveyed graph flat (descent.inheritFrom opened ancestor).1
      ((descent.inheritFrom opened ancestor).2.advance :: outer) closed
      (passed ++ [(opened.model.name, ancestor)]) := by
  have traversal := reached.traversal keyed
  have kept := inheritFrom_keeps descent opened ancestor
  rcases flattens.composed (traversal.stored opened List.mem_cons_self) with
    ⟨heir, heirFound, heirComposed⟩
  rcases flattens.composed found with ⟨source, sourceFound, _⟩
  have report := report_inheritFrom flattens traversal (reached.collected keyed) listed left
    heirFound sourceFound
  refine surveyed.pass listed kept.1 (congrArg (· + 1) kept.2) (marks_inheritFrom ..) ?_ ?_
  · have present : graph.contains ancestor = true :=
      NameMap.contains_iff.mpr ⟨parent, found⟩
    simp [report, ModelGraph.danglingAt, present]
  · simp [report, ModelGraph.conflictsAt, heirFound, sourceFound, heirComposed.name]

theorem next
    (surveyed : Surveyed graph flat descent (opened :: outer) closed passed)
    (keyed : graph.WellKeyed)
    (flattens : flat.Flattens graph)
    (reached : Reached graph descent (opened :: outer))
    (rule : Rule graph descent opened outer (.next descent' stack)) :
    ∃ closed' passed', Surveyed graph flat descent' stack closed' passed' := by
  cases rule with
  | close exhausted => exact ⟨_, _, surveyed.close (reached.traversal keyed) exhausted⟩
  | skip listed missing => exact ⟨_, _, surveyed.skip flattens listed missing⟩
  | collect listed found left =>
      rw [keyed.name_eq found] at left
      exact ⟨_, _, surveyed.collect keyed flattens reached listed found left⟩
  | enter _ _ unmarked => exact ⟨_, _, surveyed.enter unmarked⟩

end Surveyed

/-- In every reached state the report is that of the mentions passed so far. -/
theorem Reached.surveyed
    (keyed : graph.WellKeyed)
    (flattens : flat.Flattens graph)
    (reached : Reached graph descent stack) :
    ∃ closed passed, Surveyed graph flat descent stack closed passed := by
  induction reached with
  | start => exact ⟨[], [], .start⟩
  | enter _ _ unmarked ih =>
      rcases ih with ⟨closed, passed, surveyed⟩
      exact ⟨closed, passed, surveyed.enter unmarked⟩
  | step before rule ih =>
      rcases ih with ⟨closed, passed, surveyed⟩
      exact surveyed.next keyed flattens before rule

/-- When all models of the graph have been left, these are the models that were closed. -/
theorem Surveyed.closed_perm
    {closed : List Model} {passed : List Mention}
    (surveyed : Surveyed graph flat descent stack closed passed)
    (keyed : graph.WellKeyed)
    (left : ∀ {name model}, graph.get? name = some model → descent.marks[name]? = some .left) :
    closed.Perm graph.models := by
  apply (List.perm_ext_iff_of_nodup (List.Nodup.of_map Model.name surveyed.distinct)
    (List.Nodup.of_map Model.name keyed.nodup_names)).mpr
  intro model
  constructor
  · intro listed
    exact NameMap.mem_values_iff.mpr ⟨_, surveyed.stored model listed⟩
  · intro listed
    have stored := keyed.get?_name listed
    rcases List.mem_map.mp ((surveyed.left _).mp (left stored)) with ⟨other, member, same⟩
    have otherStored := surveyed.stored other member
    rw [same, stored] at otherStored
    cases otherStored
    exact member

end Descent

namespace ModelGraph

variable {graph flat : ModelGraph} {flattening : Flattening}

/-- A flattened graph makes the mentions of the original, in the same order. -/
theorem Flattens.mentions_eq
    (flattens : flat.Flattens graph) :
    flat.models.flatMap Model.mentions = graph.models.flatMap Model.mentions := by
  rw [models, models, NameMap.flatMap_values, NameMap.flatMap_values, flattens.keys]
  apply List.flatMap_congr
  intro name listed
  rcases NameMap.mem_keys_iff.mp listed with ⟨model, stored⟩
  rcases flattens.composed stored with ⟨image, found, composed⟩
  rw [stored, found, Option.map_some, Option.map_some, Model.mentions, Model.mentions,
    composed.name, composed.ancestors]

/--
The report of a flattened graph holds, up to order, what there is to report about
each mention that the models of the graph make.
-/
theorem report_perm_of_flatten
    (keyed : graph.WellKeyed)
    (done : graph.flatten = .ok flattening) :
    flattening.report.dangling.toList.Perm graph.danglingMentions ∧
      flattening.report.conflicts.toList.Perm
        ((graph.models.flatMap Model.mentions).flatMap flattening.graph.conflictsAt) := by
  have flattens := flattens_of_flatten keyed done
  rcases reached_of_flatten keyed done with ⟨descent, _, reached, _, report, left⟩
  rcases reached.surveyed keyed flattens with ⟨closed, passed, surveyed⟩
  have all : passed.Perm (graph.models.flatMap Model.mentions) := by
    have balanced := surveyed.balanced
    rw [List.flatMap_nil, List.append_nil] at balanced
    exact balanced.trans ((surveyed.closed_perm keyed left).flatMap_right _)
  rw [report, surveyed.dangling, surveyed.conflicts, danglingMentions_eq]
  exact ⟨all.flatMap_right _, all.flatMap_right _⟩

/--
The report of a flattened graph is exact.  It holds every mention of a missing
ancestor once, so that it holds none exactly if the strict check finds none, and
it holds the conflicts that there are between the flattened models.
-/
theorem flatten_report_exact
    (keyed : graph.WellKeyed)
    (done : graph.flatten = .ok flattening) :
    flattening.report.dangling.toList.Perm graph.danglingMentions ∧
      (flattening.report.dangling = #[] ↔
        ∀ heir ancestor, graph.check ≠ .error (.danglingAncestor heir ancestor)) ∧
      flattening.report.conflicts.toList.Perm flattening.graph.conflicts := by
  have flattens := flattens_of_flatten keyed done
  rcases report_perm_of_flatten keyed done with ⟨dangling, conflicts⟩
  refine ⟨dangling, ?_, ?_⟩
  · rw [check_ne_danglingAncestor_iff, ← Array.toList_eq_nil_iff]
    exact ⟨fun none => (none ▸ dangling).nil_eq.symm, fun none => (none ▸ dangling).eq_nil⟩
  · rw [conflicts_eq (flattens.wellKeyed keyed), flattens.mentions_eq]
    exact conflicts

/-- Mentions repeated, dangling and of models with fields of other types. -/
theorem flatten_report_exact_shadowing :
    ∃ flattening,
      shadowing.WellKeyed ∧
        shadowing.flatten = .ok flattening ∧
        flattening.report.dangling.toList.Perm shadowing.danglingMentions ∧
        flattening.report.conflicts.toList.Perm flattening.graph.conflicts := by
  have keyed : shadowing.WellKeyed := by
    decide
  have flattens : shadowing.flatten.isOk = true := by
    decide +kernel
  rcases exists_of_isOk flattens with ⟨flattening, done⟩
  rcases flatten_report_exact keyed done with ⟨dangling, _, conflicts⟩
  exact ⟨flattening, keyed, done, dangling, conflicts⟩

end ModelGraph

end ModelLineage
