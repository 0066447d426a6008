import ModelLineage.Generator.Failure
import ModelLineage.Proofs.Flatten.FlattenedForm

/-!
# Cycles among the ancestors

Flattening a well-keyed graph fails exactly if some model comes after itself
among its own ancestors, and what it reports is such a circle: distinct models,
each listing the next one as an ancestor, back to the first.

The trail names the open models from the innermost outward, each listed by the
next.  Read from the model that is met again inward, it is the circle; the last
step is taken by the innermost model, which lists the one met again.
-/

namespace ModelLineage

namespace ModelGraph

variable {graph : ModelGraph}

/-- A model of the graph lists a name as an ancestor. -/
def Lists (graph : ModelGraph) (heir source : String) : Prop :=
  ∃ model, graph.get? heir = some model ∧ source ∈ model.ancestors

/-- Distinct models, each listing the next one as an ancestor, and the first one again. -/
structure IsCircle (graph : ModelGraph) (cycle : List String) : Prop where
  length : 2 ≤ cycle.length
  closed : cycle.head? = cycle.getLast?
  distinct : cycle.dropLast.Nodup
  stored : ∀ name ∈ cycle, graph.contains name = true
  linked : cycle.IsChain graph.Lists

/-- A circle leads from its first model back to it. -/
theorem IsCircle.transGen
    {cycle : List String}
    (circle : graph.IsCircle cycle) :
    ∃ name, Relation.TransGen graph.Inherits name name := by
  have inherits : cycle.IsChain graph.Inherits := by
    apply circle.linked.imp_of_mem_imp
    rintro heir source _ listed ⟨model, found, lists⟩
    exact ⟨model, found, lists, circle.stored source listed⟩
  have long := circle.length
  have closed := circle.closed
  match cycle, long, closed, inherits with
  | first :: second :: rest, _, closed, inherits =>
      rcases List.isChain_cons_cons.mp inherits with ⟨step, chain⟩
      have back : (second :: rest).getLast (List.cons_ne_nil second rest) = first := by
        rw [List.head?_cons, List.getLast?_cons_cons,
          List.getLast?_eq_some_getLast (List.cons_ne_nil second rest)] at closed
        exact (Option.some.inj closed).symm
      have onward := List.relationReflTransGen_of_exists_isChain_cons rest chain back
      exact ⟨first, Relation.TransGen.head' step onward⟩

end ModelGraph

namespace Descent

variable {graph : ModelGraph} {descent : Descent} {outer : List OpenModel}

/-- On the trail each name is listed by the next one. -/
theorem Traversal.trail_linked
    {stack : List OpenModel}
    (traversal : Traversal graph descent stack) :
    descent.trail.IsChain fun inner outer => graph.Lists outer inner := by
  rw [traversal.trail, List.isChain_map]
  apply traversal.linked.imp_of_mem_imp
  intro inner outer _ below waits
  exact ⟨outer.model, traversal.stored outer below, List.mem_of_getElem? waits⟩

/-- Meeting an open model again closes a circle. -/
theorem isCircle_circleAt
    {opened : OpenModel} {name : String}
    (traversal : Traversal graph descent (opened :: outer))
    (listed : opened.model.ancestors[opened.next]? = some name)
    (entered : descent.marks[name]? = some .entered) :
    graph.IsCircle (descent.circleAt name) := by
  have onTrail : name ∈ descent.trail := (traversal.entered name).mp entered
  have stored : ∀ other ∈ descent.trail, graph.contains other = true := by
    intro other member
    rw [traversal.trail] at member
    rcases List.mem_map.mp member with ⟨below, onStack, rfl⟩
    exact NameMap.contains_iff.mpr ⟨below.model, traversal.stored below onStack⟩
  rcases circleAt_eq onTrail with ⟨inner, rest, split, circle⟩
  have split' : descent.trail = (inner ++ [name]) ++ rest := by
    rw [split, List.append_assoc]
    rfl
  have within : (inner ++ [name]).Sublist descent.trail := by
    rw [split']
    exact List.sublist_append_left _ _
  have innermost : (inner ++ [name]).head? = some opened.model.name := by
    have head : descent.trail.head? = some opened.model.name := by
      rw [traversal.trail]
      rfl
    rw [split', List.head?_append] at head
    simpa using head
  rw [circle]
  constructor
  case length => simp
  case closed =>
    rw [List.reverse_append, List.getLast?_concat]
    rfl
  case distinct =>
    rw [List.dropLast_concat]
    exact List.nodup_reverse.mpr (traversal.distinct.sublist within)
  case stored =>
    intro other member
    rcases List.mem_append.mp member with onCircle | again
    · exact stored other (within.subset (List.mem_reverse.mp onCircle))
    · rw [List.mem_singleton.mp again]
      exact stored name onTrail
  case linked =>
    have chain := traversal.trail_linked
    rw [split'] at chain
    have inward : (inner ++ [name]).reverse.IsChain graph.Lists :=
      List.isChain_reverse.mpr chain.left_of_append
    apply inward.append (List.isChain_singleton name)
    intro last isLast again isAgain
    rw [List.getLast?_reverse, innermost] at isLast
    cases isLast
    cases isAgain
    exact ⟨opened.model, traversal.stored opened List.mem_cons_self,
      List.mem_of_getElem? listed⟩

end Descent

namespace ModelGraph

variable {graph : ModelGraph}

/-- An interrupted descent has met a circle. -/
theorem isCircle_of_flatten_error
    {interruption : Interruption}
    (keyed : graph.WellKeyed)
    (failed : graph.flatten = .error interruption) :
    graph.IsCircle interruption.cycle := by
  have arrived := Descent.arrives_ofGraph graph
  rw [flatten] at failed
  cases walked : Descent.ofGraph graph with
  | ok descent =>
      rw [walked] at failed
      cases failed
  | error found =>
      rw [walked] at failed arrived
      cases failed
      rcases arrived with ⟨descent, opened, outer, reached, rule⟩
      cases rule with
      | circle listed stored entered =>
          have named := keyed.name_eq stored
          rw [named] at entered ⊢
          exact Descent.isCircle_circleAt (reached.traversal keyed) listed entered

/--
Flattening a well-keyed graph fails with a cycle exactly if some model comes
after itself among its ancestors.  It fails in no other way, and the cycle that
it reports is a circle of the graph.
-/
theorem flattened_fails_on_cycles
    (keyed : graph.WellKeyed) :
    ((∃ cycle, graph.flattened = .error (.cyclicInheritance cycle)) ↔
      ∃ name, Relation.TransGen graph.Inherits name name) ∧
      ∀ failure, graph.flattened = .error failure →
        ∃ cycle, failure = .cyclicInheritance cycle ∧ graph.IsCircle cycle := by
  have reported : ∀ failure, graph.flattened = .error failure →
      ∃ cycle, failure = .cyclicInheritance cycle ∧ graph.IsCircle cycle := by
    intro failure failed
    rw [flattened] at failed
    cases outcome : graph.flatten with
    | ok flattening =>
        rw [outcome] at failed
        cases failed
    | error interruption =>
        rw [outcome] at failed
        cases failed
        exact ⟨interruption.cycle, rfl, isCircle_of_flatten_error keyed outcome⟩
  refine ⟨⟨?_, ?_⟩, reported⟩
  · rintro ⟨cycle, failed⟩
    rcases reported _ failed with ⟨_, same, circle⟩
    cases same
    exact circle.transGen
  · rintro ⟨name, comesAgain⟩
    cases outcome : graph.flatten with
    | ok flattening =>
        exact absurd comesAgain (grounded_of_flatten keyed outcome name).not_transGen
    | error interruption =>
        refine ⟨interruption.cycle, ?_⟩
        rw [flattened, outcome]
        rfl

/-- A circle below the model that the descent starts from, beside a model that is on none. -/
def belowRoot : ModelGraph :=
  ofModels
    [⟨"Cat", [], .ofList [], ["Entity", "Pet"]⟩,
      ⟨"Entity", [⟨"id", .primitive .int64, true⟩], .ofList ["id"], []⟩,
      ⟨"Owner", [], .ofList [], ["Pet"]⟩,
      ⟨"Pet", [], .ofList [], ["Entity", "Gone", "Owner"]⟩]

theorem flattened_fails_on_cycles_belowRoot :
    belowRoot.WellKeyed ∧
      ∃ cycle,
        belowRoot.flattened = .error (.cyclicInheritance cycle) ∧
          belowRoot.IsCircle cycle := by
  have keyed : belowRoot.WellKeyed := by
    decide
  have petStored : (belowRoot.get? "Pet").map Model.ancestors =
      some ["Entity", "Gone", "Owner"] := by
    decide
  have ownerStored : (belowRoot.get? "Owner").map Model.ancestors = some ["Pet"] := by
    decide
  rcases Option.map_eq_some_iff.mp petStored with ⟨pet, petFound, petAncestors⟩
  rcases Option.map_eq_some_iff.mp ownerStored with ⟨owner, ownerFound, ownerAncestors⟩
  have outward : belowRoot.Inherits "Pet" "Owner" := by
    refine ⟨pet, petFound, ?_, NameMap.contains_iff.mpr ⟨owner, ownerFound⟩⟩
    simp [petAncestors]
  have back : belowRoot.Inherits "Owner" "Pet" := by
    refine ⟨owner, ownerFound, ?_, NameMap.contains_iff.mpr ⟨pet, petFound⟩⟩
    simp [ownerAncestors]
  rcases flattened_fails_on_cycles keyed with ⟨detected, reported⟩
  rcases detected.mpr ⟨"Pet", .head outward (.single back)⟩ with ⟨cycle, failed⟩
  rcases reported _ failed with ⟨_, same, circle⟩
  cases same
  exact ⟨keyed, cycle, failed, circle⟩

end ModelGraph

end ModelLineage
