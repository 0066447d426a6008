import Mathlib.Data.List.Nodup
import Mathlib.Data.List.TakeWhile
import ModelLineage.Proofs.Flatten.Run

/-!
# The trail of the descent

The trail names the open models from the innermost outward, no name twice, and the
names on it are those that have been entered and not left.  Marks, trail and stack
all go by the names of models, so this holds in every graph, whatever keys the
models were fetched by.  An entered name that is met again is therefore on the
trail, and the circle that it closes is the part of the trail from there inward.
-/

namespace ModelLineage

namespace Descent

variable {graph : ModelGraph} {descent descent' : Descent} {stack outer : List OpenModel}

/-- The names on the trail are those of the open models, distinct, and those that are entered. -/
structure Trailed (descent : Descent) (stack : List OpenModel) : Prop where
  trail : descent.trail = stack.map fun opened => opened.model.name
  distinct : descent.trail.Nodup
  entered : ∀ name : String, descent.marks[name]? = some .entered ↔ name ∈ descent.trail

theorem lineages_inheritFrom (descent : Descent) (opened : OpenModel) (ancestor : String) :
    (descent.inheritFrom opened ancestor).1.lineages = descent.lineages := by
  unfold inheritFrom
  split <;> rfl

theorem trail_inheritFrom (descent : Descent) (opened : OpenModel) (ancestor : String) :
    (descent.inheritFrom opened ancestor).1.trail = descent.trail := by
  unfold inheritFrom
  split <;> rfl

namespace Trailed

theorem start : Trailed .start [] where
  trail := rfl
  distinct := List.nodup_nil
  entered := by
    intro name
    simp [Descent.start]

theorem enter
    {model : Model}
    (trailed : Trailed descent stack)
    (unmarked : descent.marks[model.name]? = none) :
    Trailed (descent.descendTo model) (OpenModel.ofModel model :: stack) where
  trail := by
    show model.name :: descent.trail = _
    rw [trailed.trail]
    rfl
  distinct := by
    apply List.nodup_cons.mpr
    refine ⟨?_, trailed.distinct⟩
    rw [← trailed.entered, unmarked]
    simp
  entered := by
    intro name
    rw [entered_descendTo_iff, trailed.entered name]
    exact List.mem_cons.symm

/-- Going on to the next ancestor leaves marks and trail as they are. -/
theorem advance
    {opened opened' : OpenModel}
    (trailed : Trailed descent (opened :: outer))
    (marks : descent'.marks = descent.marks)
    (trail : descent'.trail = descent.trail)
    (sameModel : opened'.model = opened.model) :
    Trailed descent' (opened' :: outer) where
  trail := by rw [trail, trailed.trail, List.map_cons, List.map_cons, sameModel]
  distinct := by
    rw [trail]
    exact trailed.distinct
  entered := by
    intro name
    rw [marks, trail]
    exact trailed.entered name

theorem close
    {opened : OpenModel}
    (trailed : Trailed descent (opened :: outer)) :
    Trailed (descent.close opened) outer := by
  have trail : descent.trail = opened.model.name :: outer.map fun below => below.model.name :=
    trailed.trail
  have distinct := trailed.distinct
  rw [trail, List.nodup_cons] at distinct
  constructor
  case trail =>
    show descent.trail.tail = _
    rw [trail]
    rfl
  case distinct =>
    show descent.trail.tail.Nodup
    rw [trail]
    exact distinct.2
  case entered =>
    intro name
    rw [entered_close_iff, trailed.entered name]
    show _ ↔ name ∈ descent.trail.tail
    rw [trail, List.tail_cons, List.mem_cons]
    constructor
    · rintro ⟨other, same | below⟩
      · exact absurd same other
      · exact below
    · intro below
      exact ⟨fun same => distinct.1 (same ▸ below), .inr below⟩

theorem next
    {opened : OpenModel}
    (trailed : Trailed descent (opened :: outer))
    (rule : Rule graph descent opened outer (.next descent' stack)) :
    Trailed descent' stack := by
  cases rule with
  | close => exact trailed.close
  | skip => exact trailed.advance rfl rfl rfl
  | @collect ancestor _ _ _ _ =>
      exact trailed.advance (marks_inheritFrom descent opened ancestor)
        (trail_inheritFrom descent opened ancestor) (inheritFrom_keeps descent opened ancestor).1
  | enter _ _ unmarked => exact trailed.enter unmarked

end Trailed

/-- In any graph at all, the trail is in step with the stack and the marks. -/
theorem Reached.trailed (reached : Reached graph descent stack) : Trailed descent stack := by
  induction reached with
  | start => exact .start
  | enter _ _ unmarked ih => exact ih.enter unmarked
  | step _ rule ih => exact ih.next rule

/-! ## Circles on the trail -/

/-- A trail up to one of its names, read inward from that name. -/
theorem circleAt_eq
    {name : String}
    (listed : name ∈ descent.trail) :
    ∃ inner rest,
      descent.trail = inner ++ name :: rest ∧
        descent.circleAt name = (inner ++ [name]).reverse ++ [name] := by
  refine ⟨descent.trail.takeWhile (· ≠ name),
    (descent.trail.dropWhile (· ≠ name)).tail, ?_, ?_⟩
  · have nonempty : descent.trail.dropWhile (· ≠ name) ≠ [] := by
      intro empty
      have passed := List.dropWhile_eq_nil_iff.mp empty name listed
      simp at passed
    have first : (descent.trail.dropWhile (· ≠ name)).head nonempty = name := by
      simpa using List.head_dropWhile_not (fun other => decide (other ≠ name)) nonempty
    have shape := List.cons_head_tail nonempty
    rw [first] at shape
    rw [shape, List.takeWhile_append_dropWhile]
  · rw [circleAt, List.reverse_append]
    rfl

/-- The names entered and not left, from the outermost inward. -/
def path (descent : Descent) : List String :=
  descent.trail.reverse

/-- The circle at an entered name is the path from the one place of the name on, and the name. -/
theorem Trailed.exists_idxOf?_path
    {name : String}
    (trailed : Trailed descent stack)
    (entered : descent.marks[name]? = some .entered) :
    ∃ start < descent.path.length,
      descent.path.idxOf? name = some start ∧
        descent.circleAt name = descent.path.drop start ++ [name] := by
  rcases circleAt_eq ((trailed.entered name).mp entered) with ⟨inner, rest, split, circle⟩
  have path : descent.path = rest.reverse ++ name :: inner.reverse := by
    rw [Descent.path, split]
    simp
  have before : name ∉ rest.reverse := by
    have distinct := trailed.distinct
    rw [split, List.nodup_append] at distinct
    rw [List.mem_reverse]
    exact (List.nodup_cons.mp distinct.2.1).1
  refine ⟨rest.reverse.length, ?_, ?_, ?_⟩
  · rw [path, List.length_append, List.length_cons]
    omega
  · rw [path, List.idxOf?, List.findIdx?_append, List.findIdx?_eq_none_iff.mpr]
    · simp [List.findIdx?_cons]
    · intro other member
      exact beq_false_of_ne fun same => before (same ▸ member)
  · rw [path, List.drop_left, circle]
    simp

end Descent

end ModelLineage
