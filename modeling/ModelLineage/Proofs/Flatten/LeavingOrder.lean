import ModelLineage.Proofs.Flatten.Course

/-!
# Models are left after what they inherit from

Where a graph is well-keyed, marks, trail, stack and lineages are in step before
every round of the loop, whichever roots were taken before and in whichever order.
An ancestor that has been left therefore has a lineage under the very name by which
it is listed, and an open model never passes it by without collecting.

The log names the models that were left, each of them once and after all that it
inherits from.  When all roots have been taken these are the models of the graph,
and handing out the lineages finds one for each.
-/

namespace ModelLineage

/-- The name of the model that an event tells has been flattened. -/
def Event.flattened? : Event → Option String
  | .flattenedModel name _ _ => some name
  | _ => none

/-- The names of the models that some events tell have been flattened, in their order. -/
def flattenedNames (events : Array Event) : List String :=
  events.toList.filterMap Event.flattened?

namespace ModelGraph

variable {graph : ModelGraph}

/-- On a list of names, each comes after those that it inherits from. -/
def SourcesFirst (graph : ModelGraph) (names : List String) : Prop :=
  ∀ before name after, names = before ++ name :: after →
    ∀ source, graph.Inherits name source → source ∈ before

theorem SourcesFirst.concat
    {names : List String} {last : String}
    (ordered : graph.SourcesFirst names)
    (listed : ∀ source, graph.Inherits last source → source ∈ names) :
    graph.SourcesFirst (names ++ [last]) := by
  intro before name after split
  rcases List.eq_nil_or_concat after with rfl | ⟨after', last', rfl⟩
  · rcases List.append_inj' split rfl with ⟨rfl, same⟩
    cases same
    exact listed
  · rw [List.concat_eq_append, ← List.cons_append, ← List.append_assoc] at split
    exact ordered before name after' (List.append_inj' split rfl).1

/-- Handing out lineages finds one for each of some models in its turn. -/
def FindsLineages (lineages : Std.TreeMap String Lineage) : List Model → Prop
  | [] => True
  | model :: models =>
    model.name ∈ lineages ∧ FindsLineages (lineages.erase model.name) models

/-- What is handed out to one model is not missed by another one, as no name is shared. -/
theorem findsLineages_of_mem
    {lineages : Std.TreeMap String Lineage} {models : List Model}
    (distinct : (models.map Model.name).Nodup)
    (kept : ∀ model ∈ models, model.name ∈ lineages) :
    FindsLineages lineages models := by
  induction models generalizing lineages with
  | nil => trivial
  | cons model models ih =>
      rw [List.map_cons, List.nodup_cons] at distinct
      refine ⟨kept model List.mem_cons_self, ih distinct.2 ?_⟩
      intro other later
      apply Std.TreeMap.mem_erase.mpr
      refine ⟨?_, kept other (List.mem_cons_of_mem _ later)⟩
      intro same
      apply distinct.1
      rw [Std.LawfulEqCmp.eq_of_compare same]
      exact List.mem_map_of_mem later

end ModelGraph

namespace Descent

variable
    {graph : ModelGraph}
    {descent descent' : Descent}
    {stack outer : List OpenModel}
    {opened : OpenModel}

/-! ## What there is to collect -/

/-- Where the innermost open model is about to collect from an ancestor, there is a lineage. -/
def Provided (graph : ModelGraph) (descent : Descent) (stack : List OpenModel) : Prop :=
  ∀ opened ∈ stack.head?, ∀ ancestor parent,
    opened.model.ancestors[opened.next]? = some ancestor →
      graph.get? ancestor = some parent →
        descent.marks[parent.name]? = some .left →
          ∃ lineage, descent.lineages[ancestor]? = some lineage

theorem Traversal.provided
    (traversal : Traversal graph descent stack)
    (keyed : graph.WellKeyed) :
    Provided graph descent stack := by
  intro opened _ ancestor parent _ found left
  rw [keyed.name_eq found] at left
  exact (traversal.left ancestor).mp left

/-! ## What is logged -/

theorem flattenedNames_noteDangling (descent : Descent) (model ancestor : String) :
    flattenedNames (descent.noteDangling model ancestor).events =
      flattenedNames descent.events := by
  simp [flattenedNames, noteDangling, Event.flattened?]

theorem flattenedNames_inheritFrom (descent : Descent) (opened : OpenModel) (ancestor : String) :
    flattenedNames (descent.inheritFrom opened ancestor).1.events =
      flattenedNames descent.events := by
  unfold inheritFrom
  split
  · rfl
  · simp [flattenedNames, noteConflicts, Event.flattened?, Function.comp_def]

theorem flattenedNames_close (descent : Descent) (opened : OpenModel) :
    flattenedNames (descent.close opened).events =
      flattenedNames descent.events ++ [opened.model.name] := by
  simp [flattenedNames, close, Event.flattened?]

/-- The log names the models that were left, each once and after what it inherits from. -/
structure Logged (graph : ModelGraph) (descent : Descent) : Prop where
  left : ∀ name : String,
    descent.marks[name]? = some .left ↔ name ∈ flattenedNames descent.events
  distinct : (flattenedNames descent.events).Nodup
  ordered : graph.SourcesFirst (flattenedNames descent.events)

namespace Logged

theorem start : Logged graph .start where
  left := by
    intro name
    simp [Descent.start, flattenedNames]
  distinct := List.nodup_nil
  ordered := by
    intro before name after split
    cases before <;> cases split

theorem enter
    {model : Model}
    (logged : Logged graph descent)
    (unmarked : descent.marks[model.name]? = none) :
    Logged graph (descent.descendTo model) where
  left := by
    intro name
    rw [left_descendTo_iff unmarked]
    exact logged.left name
  distinct := logged.distinct
  ordered := logged.ordered

/-- Going on to the next ancestor names no further model. -/
theorem advance
    (logged : Logged graph descent)
    (marks : descent'.marks = descent.marks)
    (names : flattenedNames descent'.events = flattenedNames descent.events) :
    Logged graph descent' where
  left := by
    rw [marks, names]
    exact logged.left
  distinct := names ▸ logged.distinct
  ordered := names ▸ logged.ordered

/-- Leaving a model that has passed all its ancestors names it after these. -/
theorem close
    (logged : Logged graph descent)
    (traversal : Traversal graph descent (opened :: outer))
    (exhausted : opened.model.ancestors[opened.next]? = none) :
    Logged graph (descent.close opened) := by
  have names := flattenedNames_close descent opened
  constructor
  case left =>
    intro name
    rw [left_close_iff, logged.left, names, List.mem_append, List.mem_singleton]
    exact or_comm
  case distinct =>
    rw [names]
    refine logged.distinct.append (List.nodup_cons.mpr ⟨List.not_mem_nil, List.nodup_nil⟩) ?_
    intro name before last
    have left := (logged.left name).mpr before
    rw [List.mem_singleton.mp last, traversal.opened_entered] at left
    cases left
  case ordered =>
    rw [names]
    apply logged.ordered.concat
    rintro source ⟨model, found, listed, present⟩
    cases Option.some.inj ((traversal.stored opened List.mem_cons_self).symm.trans found)
    exact (logged.left source).mp (traversal.ancestors_left exhausted source listed present)

theorem next
    (logged : Logged graph descent)
    (traversal : Traversal graph descent (opened :: outer))
    (rule : Rule graph descent opened outer (.next descent' stack)) :
    Logged graph descent' := by
  cases rule with
  | close exhausted => exact logged.close traversal exhausted
  | skip => exact logged.advance rfl (flattenedNames_noteDangling ..)
  | collect => exact logged.advance (marks_inheritFrom ..) (flattenedNames_inheritFrom ..)
  | enter _ _ unmarked => exact logged.enter unmarked

/-- When the descent has left all models of a graph, the log names these and no others. -/
theorem perm_keys
    (logged : Logged graph descent)
    (traversal : Traversal graph descent stack)
    (left : ∀ name ∈ graph.keys, descent.marks[name]? = some .left) :
    (flattenedNames descent.events).Perm graph.keys := by
  apply (List.perm_ext_iff_of_nodup logged.distinct graph.nodup_keys).mpr
  intro name
  rw [← logged.left]
  constructor
  · intro marked
    rcases traversal.finished name marked with ⟨model, found, _⟩
    exact NameMap.mem_keys_iff.mpr ⟨model, found⟩
  · exact left name

end Logged

theorem Reached.logged
    (keyed : graph.WellKeyed)
    (reached : Reached graph descent stack) :
    Logged graph descent := by
  induction reached with
  | start => exact .start
  | enter _ _ unmarked ih => exact ih.enter unmarked
  | step before rule ih => exact ih.next (before.traversal keyed) rule

/-! ## Whole descents -/

/-- A descent from all models, in whatever order, ends in a reached state that has left them all. -/
theorem reached_of_foldlM_descendFrom
    {roots : List Model} {final : Descent}
    (keyed : graph.WellKeyed)
    (all : roots.Perm graph.models)
    (done : roots.foldlM (descendFrom graph.index) .start = .ok final) :
    Reached graph final [] ∧ ∀ name ∈ graph.keys, final.marks[name]? = some .left := by
  have arrived := arrives_of_roots graph.index roots fun _ listed => all.mem_iff.mp listed
  rw [done] at arrived
  refine ⟨arrived.1, ?_⟩
  intro name listed
  apply (arrived.1.traversal keyed).left_of_marked
  apply arrived.2
  rw [← keyed.names_models] at listed
  exact ((all.map Model.name).mem_iff).mpr listed

/--
In a well-keyed graph every state before a round of the loop is in step, and a
lineage is there whenever one is to be collected.  This covers the rounds of a
descent from all models in any order.  If the descent succeeds, handing out finds a
lineage for every model, and the log names every model once, after all that it
inherits from.
-/
theorem descent_stays_in_step
    (keyed : graph.WellKeyed) :
    (∀ descent stack, Reached graph descent stack →
      Traversal graph descent stack ∧ Provided graph descent stack) ∧
      ∀ roots : List Model, roots.Perm graph.models →
        (∃ entered rounds,
          Course graph roots .start [] entered rounds
              (roots.foldlM (descendFrom graph.index) .start) ∧
            ∀ round ∈ rounds, Reached graph round.descent (round.opened :: round.outer)) ∧
          ∀ final, roots.foldlM (descendFrom graph.index) .start = .ok final →
            Reached graph final [] ∧
              ModelGraph.FindsLineages final.lineages graph.models ∧
              (flattenedNames final.events).Perm graph.keys ∧
              graph.SourcesFirst (flattenedNames final.events) := by
  refine ⟨?inStep, fun roots all => ⟨?rounds, ?outcome⟩⟩
  case inStep =>
    intro descent stack reached
    have traversal := reached.traversal keyed
    exact ⟨traversal, traversal.provided keyed⟩
  case rounds =>
    rcases exists_course_foldlM roots .start with ⟨entered, rounds, course⟩
    exact ⟨entered, rounds, course,
      course.reached .start fun _ listed => all.mem_iff.mp listed⟩
  case outcome =>
    intro final done
    rcases reached_of_foldlM_descendFrom keyed all done with ⟨reached, left⟩
    have traversal := reached.traversal keyed
    have logged := reached.logged keyed
    refine ⟨reached, ModelGraph.findsLineages_of_mem keyed.nodup_names ?_,
      logged.perm_keys traversal left, logged.ordered⟩
    intro model listed
    have named : model.name ∈ graph.keys := by
      rw [← keyed.names_models]
      exact List.mem_map_of_mem listed
    rcases (traversal.left model.name).mp (left model.name named) with ⟨lineage, kept⟩
    rw [Std.TreeMap.mem_iff_isSome_getElem?, kept]
    rfl

/-- Models that inherit along two lines, with an ancestor that there is no model for. -/
def pound : ModelGraph :=
  .ofModels
    [⟨"Cat", [⟨"purr", .primitive .boolean, false⟩], ∅, ["Pet", "Gone", "Chip"]⟩,
      ⟨"Chip", [⟨"id", .primitive .uuid, true⟩], .ofList ["id"], ["Entity"]⟩,
      ⟨"Entity", [⟨"id", .primitive .int64, true⟩], .ofList ["id"], []⟩,
      ⟨"Pet", [⟨"name", .primitive .string, false⟩], ∅, ["Entity"]⟩]

theorem descent_stays_in_step_pound :
    pound.WellKeyed ∧
      (∃ cat,
        Traversal pound (Descent.start.descendTo cat) [OpenModel.ofModel cat] ∧
          cat.ancestors = ["Pet", "Gone", "Chip"]) ∧
      ∃ final,
        pound.models.reverse.foldlM (descendFrom pound.index) .start = .ok final ∧
          ModelGraph.FindsLineages final.lineages pound.models ∧
          flattenedNames final.events = ["Entity", "Pet", "Chip", "Cat"] ∧
          pound.SourcesFirst (flattenedNames final.events) := by
  have keyed : pound.WellKeyed := by
    decide
  have stored : (pound.get? "Cat").map Model.ancestors = some ["Pet", "Gone", "Chip"] := by
    decide
  have logged :
      (pound.models.reverse.foldlM (descendFrom pound.index) .start).toOption.map
          (fun final => flattenedNames final.events) =
        some ["Entity", "Pet", "Chip", "Cat"] := by
    decide +kernel
  rcases Option.map_eq_some_iff.mp stored with ⟨cat, found, ancestors⟩
  rcases Option.map_eq_some_iff.mp logged with ⟨final, ended, names⟩
  have done := ok_of_toOption_eq_some ended
  rcases descent_stays_in_step keyed with ⟨inStep, outcome⟩
  have opened := Reached.start.enter (mem_models_of_get? found) (by simp [start])
  rcases (outcome _ (List.reverse_perm _)).2 final done with ⟨_, finds, _, ordered⟩
  exact ⟨keyed, ⟨cat, (inStep _ _ opened).1, ancestors⟩, final, done, finds, names, ordered⟩

end Descent

end ModelLineage
