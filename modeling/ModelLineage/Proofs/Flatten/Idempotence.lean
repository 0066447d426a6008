import Mathlib.Data.List.Forall2
import ModelLineage.Proofs.Flatten.Findings
import ModelLineage.Proofs.Outcomes

/-!
# Flattening a flattened graph

A flattened graph keeps the names and the ancestors of its models, so that its
descent takes the same steps as that of the original and keeps the same marks.
Its models already hold what they inherit.  Both graphs have the same flattened
form, though, and the findings of either descent can be read off this form: they
are the same and come in the same order.
-/

namespace ModelLineage

namespace ModelGraph

variable {graph flat : ModelGraph}

/-- The models of the two graphs answer to the same names, one by one. -/
theorem Flattens.names_models
    (keyed : graph.WellKeyed)
    (flattens : flat.Flattens graph) :
    List.Forall₂ (fun root mirrored => mirrored.name = root.name) graph.models flat.models := by
  have names : flat.models.map Model.name = graph.models.map Model.name := by
    rw [(flattens.wellKeyed keyed).names_models, keyed.names_models, flattens.keys]
  have related :
      List.Forall₂ (fun name mirrored => mirrored = name)
        (graph.models.map Model.name) (flat.models.map Model.name) := by
    rw [names]
    exact List.forall₂_same.mpr fun _ _ => rfl
  rw [List.forall₂_map_left_iff, List.forall₂_map_right_iff] at related
  exact related

end ModelGraph

namespace Descent

variable
    {graph flat : ModelGraph}
    {descent descent' mirrored : Descent}
    {stack outer mirrors outerMirrors : List OpenModel}
    {opened mirror : OpenModel}

/-- An open model of the flattened graph stands where one of the original stands. -/
structure Mirrors (flat : ModelGraph) (opened mirror : OpenModel) : Prop where
  model : flat.get? opened.model.name = some mirror.model
  next : mirror.next = opened.next

/-- The descents through a graph and through its flattened form are in step. -/
structure InStep
    (graph flat : ModelGraph)
    (descent mirrored : Descent)
    (stack mirrors : List OpenModel) : Prop where
  original : Reached graph descent stack
  flattened : Reached flat mirrored mirrors
  marks : mirrored.marks = descent.marks
  report : mirrored.report = descent.report
  paired : List.Forall₂ (Mirrors flat) stack mirrors

theorem Mirrors.inheritFrom
    {ancestor : String}
    (mirroring : Mirrors flat opened mirror) :
    Mirrors flat (descent.inheritFrom opened ancestor).2.advance
      (mirrored.inheritFrom mirror ancestor).2.advance := by
  have kept := inheritFrom_keeps descent opened ancestor
  have mirrorKept := inheritFrom_keeps mirrored mirror ancestor
  constructor
  case model =>
    show flat.get? (descent.inheritFrom opened ancestor).2.model.name =
      some (mirrored.inheritFrom mirror ancestor).2.model
    rw [kept.1, mirrorKept.1]
    exact mirroring.model
  case next =>
    show (mirrored.inheritFrom mirror ancestor).2.next + 1 =
      (descent.inheritFrom opened ancestor).2.next + 1
    rw [kept.2, mirrorKept.2, mirroring.next]

namespace InStep

/-- Both descents report the same conflicts when they collect from the same ancestor. -/
theorem report_inheritFrom
    {ancestor : String} {source : Model}
    (keyed : graph.WellKeyed)
    (flattens : flat.Flattens graph)
    (inStep : InStep graph flat descent mirrored (opened :: outer) (mirror :: outerMirrors))
    (sameAncestors : mirror.model.ancestors = opened.model.ancestors)
    (sameName : mirror.model.name = opened.model.name)
    (mirroring : Mirrors flat opened mirror)
    (listed : opened.model.ancestors[opened.next]? = some ancestor)
    (sourceFound : flat.get? ancestor = some source)
    (left : descent.marks[ancestor]? = some .left) :
    (mirrored.inheritFrom mirror ancestor).1.report =
      (descent.inheritFrom opened ancestor).1.report := by
  have mirrorKeyed := flattens.wellKeyed keyed
  have mirrorListed : mirror.model.ancestors[mirror.next]? = some ancestor := by
    rw [sameAncestors, mirroring.next]
    exact listed
  have mirrorLeft : mirrored.marks[ancestor]? = some .left := by
    rw [inStep.marks]
    exact left
  have mirrorFound : flat.get? mirror.model.name = some mirror.model := by
    rw [sameName]
    exact mirroring.model
  rw [Descent.report_inheritFrom flattens (inStep.original.traversal keyed)
      (inStep.original.collected keyed) listed left mirroring.model sourceFound,
    Descent.report_inheritFrom flattens.again (inStep.flattened.traversal mirrorKeyed)
      (inStep.flattened.collected mirrorKeyed) mirrorListed mirrorLeft mirrorFound sourceFound,
    inStep.report, sameName]

/-- Where one descent goes on, so does the other, and they stay in step. -/
theorem next
    (keyed : graph.WellKeyed)
    (flattens : flat.Flattens graph)
    (inStep : InStep graph flat descent mirrored (opened :: outer) mirrors)
    (rule : Rule graph descent opened outer (.next descent' stack)) :
    ∃ mirror outerMirrors mirrored' mirrors',
      mirrors = mirror :: outerMirrors ∧
        Rule flat mirrored mirror outerMirrors (.next mirrored' mirrors') ∧
        InStep graph flat descent' mirrored' stack mirrors' := by
  rcases List.forall₂_cons_left_iff.mp inStep.paired with
    ⟨mirror, outerMirrors, mirroring, below, rfl⟩
  have stored := (inStep.original.traversal keyed).stored opened List.mem_cons_self
  rcases flattens.composed stored with ⟨image, found, composed⟩
  cases Option.some.inj (found.symm.trans mirroring.model)
  have sameListed :
      mirror.model.ancestors[mirror.next]? = opened.model.ancestors[opened.next]? := by
    rw [composed.ancestors, mirroring.next]
  refine ⟨mirror, outerMirrors, ?_⟩
  cases rule with
  | close exhausted =>
      have mirrorRule : Rule flat mirrored mirror outerMirrors _ :=
        .close (sameListed.trans exhausted)
      refine ⟨_, _, rfl, mirrorRule, inStep.original.step (.close exhausted),
        inStep.flattened.step mirrorRule, ?_, inStep.report, below⟩
      show mirrored.marks.insert mirror.model.name .left =
        descent.marks.insert opened.model.name .left
      rw [inStep.marks, composed.name]
  | skip listed missing =>
      have mirrorRule : Rule flat mirrored mirror outerMirrors _ :=
        .skip (sameListed.trans listed) (flattens.get?_eq_none_iff.mpr missing)
      refine ⟨_, _, rfl, mirrorRule, inStep.original.step (.skip listed missing),
        inStep.flattened.step mirrorRule, inStep.marks, ?_, .cons ?_ below⟩
      · rw [noteDangling, noteDangling, inStep.report, composed.name]
      · exact ⟨mirroring.model, congrArg (· + 1) mirroring.next⟩
  | @collect ancestor parent listed parentFound left =>
      rcases flattens.composed parentFound with ⟨source, sourceFound, sourceComposed⟩
      have mirrorLeft : mirrored.marks[source.name]? = some .left := by
        rw [inStep.marks, sourceComposed.name]
        exact left
      have mirrorRule : Rule flat mirrored mirror outerMirrors _ :=
        .collect (sameListed.trans listed) sourceFound mirrorLeft
      refine ⟨_, _, rfl, mirrorRule, inStep.original.step (.collect listed parentFound left),
        inStep.flattened.step mirrorRule, ?_, ?_, .cons mirroring.inheritFrom below⟩
      · rw [marks_inheritFrom, marks_inheritFrom, inStep.marks]
      · rw [keyed.name_eq parentFound] at left
        exact inStep.report_inheritFrom keyed flattens composed.ancestors composed.name
          mirroring listed sourceFound left
  | @enter ancestor parent listed parentFound unmarked =>
      rcases flattens.composed parentFound with ⟨source, sourceFound, sourceComposed⟩
      have mirrorUnmarked : mirrored.marks[source.name]? = none := by
        rw [inStep.marks, sourceComposed.name]
        exact unmarked
      have mirrorRule : Rule flat mirrored mirror outerMirrors _ :=
        .enter (sameListed.trans listed) sourceFound mirrorUnmarked
      refine ⟨_, _, rfl, mirrorRule, inStep.original.step (.enter listed parentFound unmarked),
        inStep.flattened.step mirrorRule, ?_, inStep.report, .cons ?_ (.cons mirroring below)⟩
      · show mirrored.marks.insert source.name .entered =
          descent.marks.insert parent.name .entered
        rw [inStep.marks, sourceComposed.name]
      · refine ⟨?_, rfl⟩
        show flat.get? parent.name = some source
        rw [keyed.name_eq parentFound]
        exact sourceFound

/-- When one descent has emptied its stack, so has the other. -/
theorem drain
    {final : Descent}
    (index : graph.Index)
    (mirrorIndex : flat.Index)
    (keyed : graph.WellKeyed)
    (flattens : flat.Flattens graph)
    (inStep : InStep graph flat descent mirrored stack mirrors)
    (done : Descent.drain index descent stack = .ok final) :
    ∃ mirrorFinal,
      Descent.drain mirrorIndex mirrored mirrors = .ok mirrorFinal ∧
        InStep graph flat final mirrorFinal [] [] := by
  induction descent, stack using drain.induct index generalizing mirrored mirrors with
  | case1 descent =>
      cases List.forall₂_nil_left_iff.mp inStep.paired
      rw [Descent.drain] at done ⊢
      cases done
      exact ⟨mirrored, rfl, inStep⟩
  | case2 descent opened outer interruption halted =>
      rw [drain_of_halt halted] at done
      cases done
  | case3 descent opened outer descent' stack stepped ih =>
      have rule := rule_step index descent opened outer
      rw [stepped] at rule
      rcases inStep.next keyed flattens rule with
        ⟨mirror, outerMirrors, mirrored', mirrors', rfl, mirrorRule, inStep'⟩
      rw [drain_of_next stepped] at done
      rw [drain_of_next (mirrorRule.step_eq mirrorIndex)]
      exact ih inStep' done

theorem descendFrom
    {final : Descent} {root mirrorRoot : Model}
    (index : graph.Index)
    (mirrorIndex : flat.Index)
    (keyed : graph.WellKeyed)
    (flattens : flat.Flattens graph)
    (inStep : InStep graph flat descent mirrored [] [])
    (stored : root ∈ graph.models)
    (mirrorStored : mirrorRoot ∈ flat.models)
    (sameName : mirrorRoot.name = root.name)
    (done : Descent.descendFrom index descent root = .ok final) :
    ∃ mirrorFinal,
      Descent.descendFrom mirrorIndex mirrored mirrorRoot = .ok mirrorFinal ∧
        InStep graph flat final mirrorFinal [] [] := by
  rw [Descent.descendFrom] at done ⊢
  rw [sameName, inStep.marks]
  by_cases known : descent.marks.contains root.name = true
  · rw [if_pos known] at done ⊢
    cases done
    exact ⟨mirrored, rfl, inStep⟩
  · rw [if_neg known] at done ⊢
    have free : descent.marks[root.name]? = none :=
      getElem?_eq_none_of_not_contains known
    have mirrorFree : mirrored.marks[mirrorRoot.name]? = none := by
      rw [inStep.marks, sameName]
      exact free
    have mirrorFound := (flattens.wellKeyed keyed).get?_name mirrorStored
    rw [sameName] at mirrorFound
    have entered : InStep graph flat (descent.descendTo root) (mirrored.descendTo mirrorRoot)
        [OpenModel.ofModel root] [OpenModel.ofModel mirrorRoot] := by
      refine ⟨inStep.original.enter stored free, inStep.flattened.enter mirrorStored mirrorFree,
        ?_, inStep.report, .cons ⟨mirrorFound, rfl⟩ .nil⟩
      show mirrored.marks.insert mirrorRoot.name .entered =
        descent.marks.insert root.name .entered
      rw [inStep.marks, sameName]
    exact entered.drain index mirrorIndex keyed flattens done

theorem foldlM_descendFrom
    {final : Descent} {roots mirrorRoots : List Model}
    (index : graph.Index)
    (mirrorIndex : flat.Index)
    (keyed : graph.WellKeyed)
    (flattens : flat.Flattens graph)
    (inStep : InStep graph flat descent mirrored [] [])
    (stored : ∀ root ∈ roots, root ∈ graph.models)
    (mirrorStored : ∀ root ∈ mirrorRoots, root ∈ flat.models)
    (named : List.Forall₂ (fun root mirrorRoot => mirrorRoot.name = root.name)
      roots mirrorRoots)
    (done : roots.foldlM (Descent.descendFrom index) descent = .ok final) :
    ∃ mirrorFinal,
      mirrorRoots.foldlM (Descent.descendFrom mirrorIndex) mirrored = .ok mirrorFinal ∧
        InStep graph flat final mirrorFinal [] [] := by
  induction named generalizing descent mirrored with
  | nil =>
      cases done
      exact ⟨mirrored, rfl, inStep⟩
  | @cons root mirrorRoot roots mirrorRoots sameName named ih =>
      rw [List.foldlM_cons] at done ⊢
      cases walked : Descent.descendFrom index descent root with
      | error interruption =>
          rw [walked] at done
          cases done
      | ok descent' =>
          rw [walked] at done
          rcases inStep.descendFrom index mirrorIndex keyed flattens
              (stored root List.mem_cons_self) (mirrorStored mirrorRoot List.mem_cons_self)
              sameName walked with
            ⟨mirrored', mirrorWalked, inStep'⟩
          rw [mirrorWalked]
          exact ih inStep' (fun other listed => stored other (List.mem_cons_of_mem _ listed))
            (fun other listed => mirrorStored other (List.mem_cons_of_mem _ listed)) done

end InStep

end Descent

namespace ModelGraph

variable {graph : ModelGraph} {flattening second : Flattening}

/-- The second descent ends as well, and its report is that of the first. -/
theorem flatten_again_report
    (keyed : graph.WellKeyed)
    (done : graph.flatten = .ok flattening) :
    ∃ second,
      flattening.graph.flatten = .ok second ∧ second.report = flattening.report := by
  have flattens := flattens_of_flatten keyed done
  rcases reached_of_flatten keyed done with ⟨final, walked, _, _, report, _⟩
  have started : Descent.InStep graph flattening.graph .start .start [] [] :=
    ⟨.start, .start, rfl, rfl, .nil⟩
  rcases started.foldlM_descendFrom graph.index flattening.graph.index keyed flattens
      (fun _ listed => listed) (fun _ listed => listed) (flattens.names_models keyed) walked with
    ⟨mirrorFinal, mirrorWalked, inStep⟩
  have doneAgain :
      flattening.graph.flatten =
        .ok ⟨ofModels (handOut mirrorFinal.lineages flattening.graph.models),
          mirrorFinal.report, mirrorFinal.events⟩ := by
    rw [flatten, Descent.ofGraph, mirrorWalked]
    rfl
  exact ⟨_, doneAgain, inStep.report.trans report.symm⟩

/-- A flattened graph is its own flattened form, so that flattening it leaves it as it is. -/
theorem graph_flatten_again
    (keyed : graph.WellKeyed)
    (done : graph.flatten = .ok flattening)
    (again : flattening.graph.flatten = .ok second) :
    second.graph = flattening.graph := by
  have flattens := flattens_of_flatten keyed done
  have keyedAgain := flattens.wellKeyed keyed
  have flattensAgain := flattens_of_flatten keyedAgain again
  exact flattensAgain.unique flattens.again (grounded_of_flatten keyedAgain again)

/--
Flattening a flattened graph succeeds, leaves the graph as it is and finds the
same dangling ancestors and the same conflicts in the same order.
-/
theorem flatten_idempotent
    (keyed : graph.WellKeyed)
    (done : graph.flatten = .ok flattening) :
    ∃ second,
      flattening.graph.flatten = .ok second ∧
        second.graph = flattening.graph ∧ second.report = flattening.report := by
  rcases flatten_again_report keyed done with ⟨second, again, report⟩
  exact ⟨second, again, graph_flatten_again keyed done again, report⟩

/-- Fields of other types under inherited names, one of them of a required name. -/
def shadowing : ModelGraph :=
  ofModels
    [⟨"Entity", [⟨"id", .primitive .int64, true⟩, ⟨"note", .reference "Cat", false⟩],
        .ofList ["id", "born"], []⟩,
      ⟨"Cat", [⟨"id", .primitive .string, false⟩, ⟨"id", .primitive .boolean, true⟩],
        .ofList ["id"], ["Pet", "Entity", "Gone"]⟩,
      ⟨"Pet", [⟨"note", .primitive .string, false⟩], .ofList [], ["Entity", "Entity"]⟩]

theorem flatten_idempotent_shadowing :
    ∃ first second,
      shadowing.WellKeyed ∧
        shadowing.flatten = .ok first ∧
        first.graph.flatten = .ok second ∧
        second.graph = first.graph ∧ second.report = first.report := by
  have keyed : shadowing.WellKeyed := by
    decide
  have flattens : shadowing.flatten.isOk = true := by
    decide +kernel
  rcases exists_of_isOk flattens with ⟨first, done⟩
  rcases flatten_idempotent keyed done with ⟨second, doneAgain, same⟩
  exact ⟨first, second, keyed, done, doneAgain, same⟩

end ModelGraph

end ModelLineage
