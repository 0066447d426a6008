import Std.Data.TreeMap.Lemmas
import ModelLineage.Flatten.OpenModel
import ModelLineage.Log.Event
import ModelLineage.Names.NameIndex
import ModelLineage.Schema.ModelGraph

/-!
# The descent through the ancestors

Flattening walks from each model down to its ancestors and collects their
lineages on the way back.  The models that are still open wait on a stack, so the
length of an ancestor chain is no limit.  Every name is marked when its model is
entered and again when it is left; meeting a name that is entered but not left is
a cycle.

Models are fetched by key, from an index made beforehand, and marked by name.
The two differ only on graphs that are not well-keyed, and the descent ends on
those as well: a step either enters a name that had no mark, or moves an open
model one ancestor on, or closes it.  `work` is the measure that counts these
together.
-/

namespace ModelLineage

/-- How far the descent has come with a name. -/
inductive Mark where
  | entered
  | left
  deriving DecidableEq, Inhabited

/-- What the descent knows: marks, the names entered and not left, lineages and findings. -/
structure Descent where
  marks : Std.TreeMap String Mark
  /-- The innermost name comes first. -/
  trail : List String
  lineages : Std.TreeMap String Lineage
  report : Report
  events : Array Event
  deriving Inhabited

/-- A cycle among the ancestors, with what was logged before it was met. -/
structure Interruption where
  cycle : List String
  events : Array Event
  deriving DecidableEq, Inhabited

namespace Descent

/-- Before the first model. -/
def start : Descent :=
  ⟨∅, [], ∅, .empty, #[]⟩

/-- Mark a model as entered. -/
def descendTo (descent : Descent) (model : Model) : Descent :=
  { descent with
    marks := descent.marks.insert model.name .entered
    trail := model.name :: descent.trail }

/-- Note an ancestor without a model. -/
def noteDangling (descent : Descent) (model ancestor : String) : Descent :=
  { descent with
    report :=
      { descent.report with dangling := descent.report.dangling.push ⟨model, ancestor⟩ }
    events := descent.events.push (.unknownAncestor model ancestor) }

/-- Note the conflicts that one ancestor brought. -/
def noteConflicts (descent : Descent) (conflicts : Array FieldConflict) : Descent :=
  { descent with
    report := { descent.report with conflicts := descent.report.conflicts ++ conflicts }
    events :=
      descent.events ++
        conflicts.map fun conflict =>
          .shadowedField conflict.model conflict.field conflict.source }

/-- Let an open model collect the lineage stored under an ancestor's name, if there is one. -/
def inheritFrom (descent : Descent) (opened : OpenModel) (ancestor : String) :
    Descent × OpenModel :=
  match descent.lineages[ancestor]? with
  | none => (descent, opened)
  | some inherited =>
    let collected := opened.inherit ancestor inherited
    (descent.noteConflicts collected.2, collected.1)

/-- Store the lineage of an open model that has collected from all its ancestors. -/
def close (descent : Descent) (opened : OpenModel) : Descent :=
  let name := opened.model.name
  let fields := opened.roster.toList
  { descent with
    marks := descent.marks.insert name .left
    trail := descent.trail.tail
    lineages := descent.lineages.insert name ⟨fields, opened.required⟩
    events :=
      descent.events.push (.flattenedModel name opened.model.fields.length fields.length) }

/-- The names from an entered one inward to the innermost, and that name again. -/
def circleAt (descent : Descent) (name : String) : List String :=
  name :: (descent.trail.takeWhile (· ≠ name)).reverse ++ [name]

/-- What a step of the descent leads to. -/
inductive Step where
  | next (descent : Descent) (stack : List OpenModel)
  | halt (interruption : Interruption)

/-- One step on the innermost open model. -/
def step
    {graph : ModelGraph}
    (index : graph.Index)
    (descent : Descent)
    (opened : OpenModel)
    (outer : List OpenModel) : Step :=
  match opened.model.ancestors[opened.next]? with
  | none => .next (descent.close opened) outer
  | some ancestor =>
    match index.get? ancestor with
    | none =>
      .next (descent.noteDangling opened.model.name ancestor) (opened.advance :: outer)
    | some parent =>
      match descent.marks[parent.name]? with
      | some .left =>
        let collected := descent.inheritFrom opened ancestor
        .next collected.1 (collected.2.advance :: outer)
      | some .entered => .halt ⟨descent.circleAt parent.name, descent.events⟩
      | none => .next (descent.descendTo parent) (OpenModel.ofModel parent :: opened :: outer)

/-! ## The measure -/

/-- The steps that a model can take from being entered to being left. -/
def stepsOf (model : Model) : Nat :=
  model.ancestors.length + 2

/-- The steps of the models without a mark. -/
def stepsAhead (marks : Std.TreeMap String Mark) : List Model → Nat
  | [] => 0
  | model :: models =>
    (if marks.contains model.name then 0 else stepsOf model) + stepsAhead marks models

/-- The steps left for an open model. -/
def stepsLeft (opened : OpenModel) : Nat :=
  opened.model.ancestors.length - opened.next + 1

/-- The steps left for the open models on the stack and for the models without a mark. -/
def work (graph : ModelGraph) (descent : Descent) (stack : List OpenModel) : Nat :=
  stepsAhead descent.marks graph.models +
    stack.foldr (fun opened steps => stepsLeft opened + steps) 0

theorem stepsAhead_insert_le (marks : Std.TreeMap String Mark) (name : String) (mark : Mark)
    (models : List Model) :
    stepsAhead (marks.insert name mark) models ≤ stepsAhead marks models := by
  induction models with
  | nil => simp [stepsAhead]
  | cons model models ih =>
    simp only [stepsAhead, Std.TreeMap.contains_insert]
    by_cases known : marks.contains model.name
    · simp [known, ih]
    · by_cases same : compare name model.name = .eq
      · simp only [same, beq_self_eq_true, Bool.true_or, if_true, known]
        simp only [Bool.false_eq_true, if_false]
        omega
      · simp only [beq_eq_false_iff_ne.mpr same, Bool.false_or, known]
        omega

theorem stepsAhead_insert_lt {marks : Std.TreeMap String Mark} {model : Model}
    {models : List Model} (mark : Mark) (stored : model ∈ models)
    (unmarked : marks.contains model.name = false) :
    stepsAhead (marks.insert model.name mark) models + stepsOf model ≤
      stepsAhead marks models := by
  induction models with
  | nil => cases stored
  | cons head models ih =>
    rcases List.mem_cons.mp stored with rfl | stored
    · have rest := stepsAhead_insert_le marks model.name mark models
      simp only [stepsAhead, Std.TreeMap.contains_insert_self, if_true, unmarked,
        Bool.false_eq_true, if_false]
      omega
    · have rest := ih stored
      have first :
          (if (marks.insert model.name mark).contains head.name then 0 else stepsOf head) ≤
            (if marks.contains head.name then 0 else stepsOf head) := by
        simp only [Std.TreeMap.contains_insert]
        by_cases known : marks.contains head.name
        · simp [known]
        · simp only [known, Bool.or_false, Bool.false_eq_true, if_false]
          split <;> omega
      simp only [stepsAhead]
      omega

theorem mem_models_of_get? {graph : ModelGraph} {key : String} {model : Model}
    (found : graph.get? key = some model) : model ∈ graph.models := by
  have stored : ∀ entries : List (String × Model),
      entries.lookup key = some model → model ∈ entries.map Prod.snd := by
    intro entries
    induction entries with
    | nil => simp
    | cons entry entries ih =>
      rw [List.lookup_cons]
      split
      · intro same
        simp_all
      · intro rest
        exact List.mem_cons_of_mem _ (ih rest)
  exact stored _ found

theorem inheritFrom_keeps (descent : Descent) (opened : OpenModel) (ancestor : String) :
    (descent.inheritFrom opened ancestor).2.model = opened.model ∧
      (descent.inheritFrom opened ancestor).2.next = opened.next := by
  unfold inheritFrom
  split
  · simp
  · exact OpenModel.inherit_keeps ..

theorem marks_inheritFrom (descent : Descent) (opened : OpenModel) (ancestor : String) :
    (descent.inheritFrom opened ancestor).1.marks = descent.marks := by
  unfold inheritFrom
  split <;> rfl

/-- Every step does some of the work. -/
theorem work_step {graph : ModelGraph} {index : graph.Index} {descent descent' : Descent}
    {opened : OpenModel} {outer stack : List OpenModel}
    (stepped : step index descent opened outer = .next descent' stack) :
    work graph descent' stack < work graph descent (opened :: outer) := by
  simp only [step, NameMap.Index.get?_eq] at stepped
  split at stepped
  · cases stepped
    have shrunk :=
      stepsAhead_insert_le descent.marks opened.model.name .left graph.models
    simp only [work, close, List.foldr_cons, stepsLeft]
    omega
  · rename_i ancestor listed
    have within : opened.next < opened.model.ancestors.length :=
      (List.getElem?_eq_some_iff.mp listed).1
    split at stepped
    · cases stepped
      simp only [work, noteDangling, OpenModel.advance, List.foldr_cons, stepsLeft]
      omega
    · rename_i parent found
      split at stepped
      · cases stepped
        have same := inheritFrom_keeps descent opened ancestor
        simp only [work, marks_inheritFrom, OpenModel.advance, List.foldr_cons,
          stepsLeft, same.1, same.2]
        omega
      · cases stepped
      · rename_i unmarked
        cases stepped
        have absent : descent.marks.contains parent.name = false := by
          rw [← Std.TreeMap.isSome_getElem?_eq_contains, unmarked]
          rfl
        have shrunk :=
          stepsAhead_insert_lt .entered (mem_models_of_get? found) absent
        simp only [work, descendTo, OpenModel.ofModel, List.foldr_cons, stepsLeft]
        simp only [stepsOf] at shrunk
        omega

/-! ## The whole descent -/

/-- Step until the stack is empty. -/
def drain
    {graph : ModelGraph}
    (index : graph.Index)
    (descent : Descent) : List OpenModel → Except Interruption Descent
  | [] => .ok descent
  | opened :: outer =>
    match _ : step index descent opened outer with
    | .halt interruption => .error interruption
    | .next descent' stack => drain index descent' stack
termination_by stack => work graph descent stack
decreasing_by exact work_step ‹_›

/-- Walk down from one model, unless its name is marked. -/
def descendFrom
    {graph : ModelGraph}
    (index : graph.Index)
    (descent : Descent)
    (root : Model) : Except Interruption Descent :=
  if descent.marks.contains root.name then .ok descent
  else drain index (descent.descendTo root) [OpenModel.ofModel root]

/-- Walk down from every model in key order. -/
def ofGraph (graph : ModelGraph) : Except Interruption Descent :=
  graph.models.foldlM (descendFrom graph.index) start

end Descent

end ModelLineage
