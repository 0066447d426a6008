import ModelLineage.Flatten.Descent
import ModelLineage.Proofs.Names.Lookup

/-!
# Runs of the descent

`Rule` lists what one step of the descent can do, each case with all that the
step has found out.  `Reached` holds of the states in which the descent can find
itself before a step, whatever roots were chosen and in whichever order.  What
the whole descent leads to is reached, so a property of all reached states that
each rule preserves is a property of its outcome.
-/

namespace ModelLineage

namespace Descent

variable {graph : ModelGraph}

/-- What a step on the innermost open model does, by what it finds. -/
inductive Rule
    (graph : ModelGraph)
    (descent : Descent)
    (opened : OpenModel)
    (outer : List OpenModel) : Step → Prop where
  | close
      (exhausted : opened.model.ancestors[opened.next]? = none) :
      Rule graph descent opened outer (.next (descent.close opened) outer)
  | skip {ancestor : String}
      (listed : opened.model.ancestors[opened.next]? = some ancestor)
      (missing : graph.get? ancestor = none) :
      Rule graph descent opened outer
        (.next (descent.noteDangling opened.model.name ancestor) (opened.advance :: outer))
  | collect {ancestor : String} {parent : Model}
      (listed : opened.model.ancestors[opened.next]? = some ancestor)
      (found : graph.get? ancestor = some parent)
      (left : descent.marks[parent.name]? = some .left) :
      Rule graph descent opened outer
        (.next (descent.inheritFrom opened ancestor).1
          ((descent.inheritFrom opened ancestor).2.advance :: outer))
  | circle {ancestor : String} {parent : Model}
      (listed : opened.model.ancestors[opened.next]? = some ancestor)
      (found : graph.get? ancestor = some parent)
      (entered : descent.marks[parent.name]? = some .entered) :
      Rule graph descent opened outer
        (.halt ⟨descent.circleAt parent.name, descent.events⟩)
  | enter {ancestor : String} {parent : Model}
      (listed : opened.model.ancestors[opened.next]? = some ancestor)
      (found : graph.get? ancestor = some parent)
      (unmarked : descent.marks[parent.name]? = none) :
      Rule graph descent opened outer
        (.next (descent.descendTo parent) (OpenModel.ofModel parent :: opened :: outer))

/-- Every step follows a rule. -/
theorem rule_step
    (index : graph.Index)
    (descent : Descent)
    (opened : OpenModel)
    (outer : List OpenModel) :
    Rule graph descent opened outer (step index descent opened outer) := by
  simp only [step, NameMap.Index.get?_eq]
  split
  · rename_i exhausted
    exact .close exhausted
  · rename_i ancestor listed
    split
    · rename_i missing
      exact .skip listed missing
    · rename_i parent found
      split
      · rename_i left
        exact .collect listed found left
      · rename_i entered
        exact .circle listed found entered
      · rename_i unmarked
        exact .enter listed found unmarked

theorem rule_of_step_eq
    {index : graph.Index} {descent : Descent} {opened : OpenModel} {outer : List OpenModel}
    {outcome : Step}
    (stepped : step index descent opened outer = outcome) :
    Rule graph descent opened outer outcome := by
  rw [← stepped]
  exact rule_step index descent opened outer

/-- The rules leave a step no choice. -/
theorem Rule.step_eq
    {descent : Descent} {opened : OpenModel} {outer : List OpenModel} {outcome : Step}
    (index : graph.Index)
    (rule : Rule graph descent opened outer outcome) :
    step index descent opened outer = outcome := by
  cases rule with
  | close exhausted => simp only [step, exhausted]
  | skip listed missing => simp only [step, listed, NameMap.Index.get?_eq, missing]
  | collect listed found left =>
      simp only [step, listed, NameMap.Index.get?_eq, found, left]
  | circle listed found entered =>
      simp only [step, listed, NameMap.Index.get?_eq, found, entered]
  | enter listed found unmarked =>
      simp only [step, listed, NameMap.Index.get?_eq, found, unmarked]

/-- The states of the descent before a step, the roots taken in any order. -/
inductive Reached (graph : ModelGraph) : Descent → List OpenModel → Prop where
  | start :
      Reached graph .start []
  | enter {descent : Descent} {root : Model}
      (reached : Reached graph descent [])
      (stored : root ∈ graph.models)
      (unmarked : descent.marks[root.name]? = none) :
      Reached graph (descent.descendTo root) [OpenModel.ofModel root]
  | step
      {descent descent' : Descent} {opened : OpenModel} {outer stack : List OpenModel}
      (reached : Reached graph descent (opened :: outer))
      (rule : Rule graph descent opened outer (.next descent' stack)) :
      Reached graph descent' stack

/-! ## Marks -/

section

variable {descent : Descent} {model : Model} {opened : OpenModel} {name : String}

theorem entered_descendTo_iff :
    (descent.descendTo model).marks[name]? = some .entered ↔
      name = model.name ∨ descent.marks[name]? = some .entered := by
  rw [descendTo, getElem?_insert_name]
  split
  · rename_i same
    simp [same]
  · rename_i other
    simp [Ne.symm other]

theorem left_descendTo_iff
    (unmarked : descent.marks[model.name]? = none) :
    (descent.descendTo model).marks[name]? = some .left ↔
      descent.marks[name]? = some .left := by
  rw [descendTo, getElem?_insert_name]
  split
  · rename_i same
    rw [← same, unmarked]
    simp
  · rfl

theorem entered_close_iff :
    (descent.close opened).marks[name]? = some .entered ↔
      name ≠ opened.model.name ∧ descent.marks[name]? = some .entered := by
  rw [close, getElem?_insert_name]
  split
  · rename_i same
    simp [same]
  · rename_i other
    simp [Ne.symm other]

theorem left_close_iff :
    (descent.close opened).marks[name]? = some .left ↔
      name = opened.model.name ∨ descent.marks[name]? = some .left := by
  rw [close, getElem?_insert_name]
  split
  · rename_i same
    simp [same]
  · rename_i other
    simp [Ne.symm other]

end

/-! ## From one step to the whole descent -/

theorem drain_of_halt
    {index : graph.Index} {descent : Descent} {opened : OpenModel} {outer : List OpenModel}
    {interruption : Interruption}
    (halted : step index descent opened outer = .halt interruption) :
    drain index descent (opened :: outer) = .error interruption := by
  rw [drain]
  split
  · rename_i found same
    rw [halted] at same
    cases same
    rfl
  · rename_i same
    rw [halted] at same
    cases same

theorem drain_of_next
    {index : graph.Index} {descent descent' : Descent} {opened : OpenModel}
    {outer stack : List OpenModel}
    (stepped : step index descent opened outer = .next descent' stack) :
    drain index descent (opened :: outer) = drain index descent' stack := by
  rw [drain]
  split
  · rename_i same
    rw [stepped] at same
    cases same
  · rename_i same
    rw [stepped] at same
    cases same
    rfl

/-- A name that has a mark keeps one. -/
theorem Rule.keeps_mark
    {descent descent' : Descent} {opened : OpenModel} {outer stack : List OpenModel}
    {name : String}
    (rule : Rule graph descent opened outer (.next descent' stack))
    (marked : descent.marks.contains name = true) :
    descent'.marks.contains name = true := by
  cases rule with
  | close => simp [Descent.close, Std.TreeMap.contains_insert, marked]
  | skip => exact marked
  | collect =>
      rw [marks_inheritFrom]
      exact marked
  | enter => simp [descendTo, Std.TreeMap.contains_insert, marked]

/--
What part of the descent leads to: a reached state with an empty stack in which
the given names are marked, or the halt of a step from a reached state.
-/
def Arrives (graph : ModelGraph) (names : List String) : Except Interruption Descent → Prop
  | .ok descent =>
    Reached graph descent [] ∧ ∀ name ∈ names, descent.marks.contains name = true
  | .error interruption =>
    ∃ descent opened outer,
      Reached graph descent (opened :: outer) ∧
        Rule graph descent opened outer (.halt interruption)

theorem arrives_drain
    {names : List String} {descent : Descent} {stack : List OpenModel}
    (index : graph.Index)
    (reached : Reached graph descent stack)
    (marked : ∀ name ∈ names, descent.marks.contains name = true) :
    Arrives graph names (drain index descent stack) := by
  induction descent, stack using drain.induct index with
  | case1 descent =>
      rw [drain]
      exact ⟨reached, marked⟩
  | case2 descent opened outer interruption halted =>
      rw [drain_of_halt halted]
      exact ⟨descent, opened, outer, reached, rule_of_step_eq halted⟩
  | case3 descent opened outer descent' stack stepped ih =>
      have rule := rule_of_step_eq stepped
      rw [drain_of_next stepped]
      exact ih (reached.step rule) fun name listed => rule.keeps_mark (marked name listed)

theorem arrives_descendFrom
    {names : List String} {descent : Descent} {root : Model}
    (index : graph.Index)
    (reached : Reached graph descent [])
    (stored : root ∈ graph.models)
    (marked : ∀ name ∈ names, descent.marks.contains name = true) :
    Arrives graph (root.name :: names) (descendFrom index descent root) := by
  rw [descendFrom]
  by_cases known : descent.marks.contains root.name = true
  · rw [if_pos known]
    refine ⟨reached, ?_⟩
    intro name listed
    rcases List.mem_cons.mp listed with rfl | before
    · exact known
    · exact marked name before
  · rw [if_neg known]
    apply arrives_drain index (reached.enter stored (getElem?_eq_none_of_not_contains known))
    intro name listed
    rcases List.mem_cons.mp listed with rfl | before
    · simp [descendTo]
    · simp [descendTo, Std.TreeMap.contains_insert, marked name before]

theorem arrives_foldlM_descendFrom
    {names : List String} {descent : Descent}
    (index : graph.Index)
    (roots : List Model)
    (reached : Reached graph descent [])
    (stored : ∀ root ∈ roots, root ∈ graph.models)
    (marked : ∀ name ∈ names, descent.marks.contains name = true) :
    Arrives graph (roots.map Model.name ++ names)
      (roots.foldlM (descendFrom index) descent) := by
  induction roots generalizing descent names with
  | nil => exact ⟨reached, marked⟩
  | cons root roots ih =>
      have first := arrives_descendFrom index reached
        (stored root List.mem_cons_self) marked
      rw [List.foldlM_cons]
      cases walked : descendFrom index descent root with
      | error interruption =>
          rw [walked] at first
          exact first
      | ok descent' =>
          rw [walked] at first
          have rest := ih first.1
            (fun other listed => stored other (List.mem_cons_of_mem _ listed)) first.2
          have permuted :
              (roots.map Model.name ++ root.name :: names).Perm
                ((root :: roots).map Model.name ++ names) := by
            exact List.perm_middle
          show Arrives graph _ (roots.foldlM (descendFrom index) descent')
          cases ended : roots.foldlM (descendFrom index) descent' with
          | error interruption =>
              rw [ended] at rest
              exact rest
          | ok final =>
              rw [ended] at rest
              exact ⟨rest.1, fun name listed => rest.2 name (permuted.mem_iff.mpr listed)⟩

/-- The descent from some models marks them all, or a step halts it. -/
theorem arrives_of_roots
    (index : graph.Index)
    (roots : List Model)
    (stored : ∀ root ∈ roots, root ∈ graph.models) :
    Arrives graph (roots.map Model.name) (roots.foldlM (descendFrom index) .start) := by
  have unmarked : ∀ name ∈ ([] : List String), Descent.start.marks.contains name = true := by
    simp
  have outcome := arrives_foldlM_descendFrom index roots .start stored unmarked
  rw [List.append_nil] at outcome
  exact outcome

/-- The descent through a whole graph marks all its models, or a step halts it. -/
theorem arrives_ofGraph (graph : ModelGraph) :
    Arrives graph (graph.models.map Model.name) (ofGraph graph) :=
  arrives_of_roots graph.index graph.models fun _ listed => listed

end Descent

end ModelLineage
