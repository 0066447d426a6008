import Mathlib.Algebra.GroupWithZero.Nat
import ModelLineage.Proofs.Flatten.Rekeying

/-!
# The course of the descent

The descent goes through its loop once for every step on an innermost open model.
`Course` writes this down as it happens, the models entered and the states before
each step, from the first root to the outcome.  A course is a finite thing, so that
there is one for every graph says that the loop comes to an end for every root.

A step may open a model and leave the one below where it is, so the loop does not
go on by ancestors alone.  What it goes through is paid for when a model is entered:
a model of `n` ancestors pays for one step on each, for the step that closes it, and
for the step that opened it.  Entering marks its name and nothing takes a mark away,
so no name is entered twice.  None of this needs models to be stored under their
names.
-/

namespace ModelLineage

namespace Descent

/-- The descent before a step: what it knows, the innermost open model and the others. -/
structure Round where
  descent : Descent
  opened : OpenModel
  outer : List OpenModel

/--
The course of the descent from a state on, with the roots that are still to come:
the models entered, the rounds of the loop and the outcome.
-/
inductive Course (graph : ModelGraph) :
    List Model → Descent → List OpenModel →
      List Model → List Round → Except Interruption Descent → Prop where
  | done {descent : Descent} :
      Course graph [] descent [] [] [] (.ok descent)
  | pass
      {roots entered : List Model} {root : Model} {descent : Descent} {rounds : List Round}
      {outcome : Except Interruption Descent}
      (marked : descent.marks.contains root.name = true)
      (rest : Course graph roots descent [] entered rounds outcome) :
      Course graph (root :: roots) descent [] entered rounds outcome
  | root
      {roots entered : List Model} {root : Model} {descent : Descent} {rounds : List Round}
      {outcome : Except Interruption Descent}
      (unmarked : descent.marks.contains root.name = false)
      (rest : Course graph roots (descent.descendTo root) [OpenModel.ofModel root]
        entered rounds outcome) :
      Course graph (root :: roots) descent [] (root :: entered) rounds outcome
  | halt
      {roots : List Model} {descent : Descent} {opened : OpenModel} {outer : List OpenModel}
      {interruption : Interruption}
      (stepped : step graph.index descent opened outer = .halt interruption) :
      Course graph roots descent (opened :: outer) [] [⟨descent, opened, outer⟩]
        (.error interruption)
  | enter
      {roots entered : List Model} {descent descent' : Descent} {opened : OpenModel}
      {parent : Model} {outer : List OpenModel} {rounds : List Round}
      {outcome : Except Interruption Descent}
      (stepped : step graph.index descent opened outer =
        .next descent' (OpenModel.ofModel parent :: opened :: outer))
      (rest : Course graph roots descent' (OpenModel.ofModel parent :: opened :: outer)
        entered rounds outcome) :
      Course graph roots descent (opened :: outer) (parent :: entered)
        (⟨descent, opened, outer⟩ :: rounds) outcome
  | go
      {roots entered : List Model} {descent descent' : Descent} {opened : OpenModel}
      {outer stack : List OpenModel} {rounds : List Round}
      {outcome : Except Interruption Descent}
      (stepped : step graph.index descent opened outer = .next descent' stack)
      (opensNone : stack.length ≤ (opened :: outer).length)
      (rest : Course graph roots descent' stack entered rounds outcome) :
      Course graph roots descent (opened :: outer) entered
        (⟨descent, opened, outer⟩ :: rounds) outcome

variable
    {graph : ModelGraph}
    {descent descent' : Descent}
    {opened : OpenModel}
    {outer stack : List OpenModel}
    {roots entered : List Model}
    {rounds : List Round}
    {outcome : Except Interruption Descent}

/-! ## Steps -/

/-- Going on to the next ancestor is one of the steps that an open model has left. -/
theorem stepsLeft_advance_lt
    {collected : OpenModel} {ancestor : String}
    (listed : opened.model.ancestors[opened.next]? = some ancestor)
    (sameModel : collected.model = opened.model)
    (sameNext : collected.next = opened.next) :
    stepsLeft collected.advance < stepsLeft opened := by
  have within : opened.next < opened.model.ancestors.length :=
    (List.getElem?_eq_some_iff.mp listed).1
  have model : collected.advance.model = opened.model := sameModel
  have next : collected.advance.next = opened.next + 1 := congrArg (· + 1) sameNext
  rw [stepsLeft, stepsLeft, model, next]
  omega

/-- A step that goes on opens a model without a mark, or it goes on with those that are open. -/
theorem enters_or_goes
    (stepped : step graph.index descent opened outer = .next descent' stack) :
    (∃ parent,
      descent.marks.contains parent.name = false ∧
        descent' = descent.descendTo parent ∧
        stack = OpenModel.ofModel parent :: opened :: outer) ∨
      stack.length ≤ (opened :: outer).length ∧
        (stack.map stepsLeft).sum < ((opened :: outer).map stepsLeft).sum := by
  rw [List.map_cons, List.sum_cons]
  cases rule_of_step_eq stepped with
  | close =>
      refine .inr ⟨Nat.le_succ _, ?_⟩
      rw [stepsLeft]
      omega
  | skip listed =>
      refine .inr ⟨Nat.le_refl _, ?_⟩
      rw [List.map_cons, List.sum_cons]
      exact Nat.add_lt_add_right (stepsLeft_advance_lt listed rfl rfl) _
  | @collect ancestor _ listed _ _ =>
      refine .inr ⟨Nat.le_refl _, ?_⟩
      have kept := inheritFrom_keeps descent opened ancestor
      rw [List.map_cons, List.sum_cons]
      exact Nat.add_lt_add_right (stepsLeft_advance_lt listed kept.1 kept.2) _
  | @enter _ parent _ _ unmarked =>
      refine .inl ⟨parent, ?_, rfl, rfl⟩
      rw [Std.TreeMap.contains_eq_isSome_getElem?, unmarked]
      rfl

theorem descendTo_of_enters
    {parent : Model}
    (stepped : step graph.index descent opened outer =
      .next descent' (OpenModel.ofModel parent :: opened :: outer)) :
    descent.marks.contains parent.name = false ∧ descent' = descent.descendTo parent := by
  rcases enters_or_goes stepped with ⟨other, unmarked, same, stack⟩ | ⟨shorter, _⟩
  · have opens : parent = other := congrArg OpenModel.model (List.cons.inj stack).1
    rw [opens]
    exact ⟨unmarked, same⟩
  · exact absurd shorter (Nat.not_succ_le_self _)

theorem sum_stepsLeft_lt_of_goes
    (stepped : step graph.index descent opened outer = .next descent' stack)
    (opensNone : stack.length ≤ (opened :: outer).length) :
    (stack.map stepsLeft).sum < ((opened :: outer).map stepsLeft).sum := by
  rcases enters_or_goes stepped with ⟨_, _, _, rfl⟩ | ⟨_, fewer⟩
  · exact absurd opensNone (Nat.not_succ_le_self _)
  · exact fewer

/-! ## Courses -/

/-- The loop comes to an end, and what follows it has a course. -/
theorem exists_course_drain
    {next : Descent → Except Interruption Descent}
    (onward : ∀ descent, ∃ entered rounds,
      Course graph roots descent [] entered rounds (next descent))
    (descent : Descent)
    (stack : List OpenModel) :
    ∃ entered rounds,
      Course graph roots descent stack entered rounds
        (drain graph.index descent stack >>= next) := by
  induction descent, stack using drain.induct graph.index with
  | case1 descent =>
      rw [drain]
      exact onward descent
  | case2 descent opened outer interruption halted =>
      rw [drain_of_halt halted]
      exact ⟨_, _, .halt halted⟩
  | case3 descent opened outer descent' stack stepped ih =>
      rw [drain_of_next stepped]
      rcases ih with ⟨entered, rounds, course⟩
      rcases enters_or_goes stepped with ⟨parent, _, _, rfl⟩ | ⟨opensNone, _⟩
      · exact ⟨_, _, .enter stepped course⟩
      · exact ⟨_, _, .go stepped opensNone course⟩

theorem exists_course_foldlM
    (roots : List Model)
    (descent : Descent) :
    ∃ entered rounds,
      Course graph roots descent [] entered rounds
        (roots.foldlM (descendFrom graph.index) descent) := by
  induction roots generalizing descent with
  | nil => exact ⟨_, _, .done⟩
  | cons root roots ih =>
      rw [List.foldlM_cons, descendFrom]
      by_cases marked : descent.marks.contains root.name = true
      · rw [if_pos marked]
        rcases ih descent with ⟨entered, rounds, course⟩
        exact ⟨_, _, .pass marked course⟩
      · rw [if_neg marked]
        rcases exists_course_drain ih (descent.descendTo root) [OpenModel.ofModel root] with
          ⟨entered, rounds, course⟩
        exact ⟨_, _, .root (Bool.eq_false_iff.mpr marked) course⟩

/-- Models without a mark, of distinct names. -/
structure Fresh (descent : Descent) (models : List Model) : Prop where
  unmarked : ∀ model ∈ models, descent.marks.contains model.name = false
  distinct : (models.map Model.name).Nodup

theorem Fresh.cons
    {model : Model}
    (unmarked : descent.marks.contains model.name = false)
    (fresh : (descent.descendTo model).Fresh entered) :
    descent.Fresh (model :: entered) where
  unmarked := by
    intro other member
    rcases List.mem_cons.mp member with rfl | later
    · exact unmarked
    · have still := fresh.unmarked other later
      rw [descendTo, Std.TreeMap.contains_insert, Bool.or_eq_false_iff] at still
      exact still.2
  distinct := by
    rw [List.map_cons, List.nodup_cons]
    refine ⟨?_, fresh.distinct⟩
    intro again
    rcases List.mem_map.mp again with ⟨other, later, same⟩
    have still := fresh.unmarked other later
    rw [descendTo, same, Std.TreeMap.contains_insert_self] at still
    cases still

/-- The models that a course enters have no mark before, and their names are distinct. -/
theorem Course.fresh (course : Course graph roots descent stack entered rounds outcome) :
    descent.Fresh entered := by
  induction course with
  | done => exact ⟨by simp, List.nodup_nil⟩
  | pass _ _ ih => exact ih
  | root unmarked _ ih => exact ih.cons unmarked
  | halt => exact ⟨by simp, List.nodup_nil⟩
  | enter stepped _ ih =>
      rcases descendTo_of_enters stepped with ⟨unmarked, rfl⟩
      exact ih.cons unmarked
  | go stepped _ _ ih =>
      refine ⟨?_, ih.distinct⟩
      intro model member
      apply Bool.eq_false_iff.mpr
      intro marked
      have later := ih.unmarked model member
      rw [(rule_of_step_eq stepped).keeps_mark marked] at later
      cases later

/-- What is entered, and what is open already, pays for every round of a course. -/
theorem Course.length_rounds_le
    (course : Course graph roots descent stack entered rounds outcome) :
    rounds.length ≤ (entered.map stepsOf).sum + (stack.map stepsLeft).sum := by
  induction course with
  | done => exact Nat.zero_le _
  | pass _ _ ih => exact ih
  | @root _ _ root _ _ _ _ _ ih =>
      have paid : stepsLeft (OpenModel.ofModel root) < stepsOf root := Nat.lt_succ_self _
      simp only [List.map_cons, List.sum_cons, List.map_nil, List.sum_nil] at ih ⊢
      omega
  | @halt _ _ opened outer _ _ =>
      have paid : 0 < stepsLeft opened := Nat.succ_pos _
      simp only [List.map_cons, List.sum_cons, List.length_cons, List.length_nil]
      omega
  | @enter _ _ _ _ _ parent _ _ _ _ _ ih =>
      have paid : stepsLeft (OpenModel.ofModel parent) < stepsOf parent := Nat.lt_succ_self _
      simp only [List.map_cons, List.sum_cons, List.length_cons] at ih ⊢
      omega
  | go stepped opensNone _ ih =>
      have fewer := sum_stepsLeft_lt_of_goes stepped opensNone
      rw [List.length_cons]
      omega

/-- Every round of a course is a reached state. -/
theorem Course.reached
    (course : Course graph roots descent stack entered rounds outcome)
    (reached : Reached graph descent stack)
    (stored : ∀ root ∈ roots, root ∈ graph.models) :
    ∀ round ∈ rounds, Reached graph round.descent (round.opened :: round.outer) := by
  induction course with
  | done => simp
  | pass _ _ ih => exact ih reached fun other listed => stored other (List.mem_cons_of_mem _ listed)
  | root unmarked _ ih =>
      apply ih (reached.enter (stored _ List.mem_cons_self) _)
        fun other listed => stored other (List.mem_cons_of_mem _ listed)
      exact getElem?_eq_none_of_not_contains (Bool.eq_false_iff.mp unmarked)
  | halt => exact List.forall_mem_singleton.mpr reached
  | enter stepped _ ih =>
      exact List.forall_mem_cons.mpr
        ⟨reached, ih (reached.step (rule_of_step_eq stepped)) stored⟩
  | go stepped _ _ ih =>
      exact List.forall_mem_cons.mpr
        ⟨reached, ih (reached.step (rule_of_step_eq stepped)) stored⟩

end Descent

/-! ## What is looked up -/

/-- Every position that a roster has noted is the position of a field. -/
def FieldRoster.InRange (roster : FieldRoster) : Prop :=
  ∀ (name : String) (position : Nat),
    roster.positions[name]? = some position → position < roster.fields.size

theorem FieldRoster.Indexed.inRange
    {roster : FieldRoster}
    (indexed : roster.Indexed) :
    roster.InRange := by
  intro name position known
  rcases (indexed name position).mp known with ⟨_, listed, _⟩
  exact (Array.getElem?_eq_some_iff.mp listed).1

namespace Descent

/-- However far a lineage has been inherited, the open model looks for names in range. -/
def Round.InheritsInRange (round : Round) : Prop :=
  ∀ (source : String) (lineage : Lineage), round.descent.lineages[source]? = some lineage →
    ∀ inherited, inherited <+: lineage.fields →
      (inherited.foldl (OpenModel.inheritField source lineage)
        (round.opened, #[])).1.roster.InRange

/-- A name that is met while it is entered is found on the path, where its circle begins. -/
def Round.FindsCircles (round : Round) : Prop :=
  ∀ name : String, round.descent.marks[name]? = some .entered →
    ∃ start < round.descent.path.length,
      round.descent.path.idxOf? name = some start ∧
        round.descent.circleAt name = round.descent.path.drop start ++ [name]

variable {graph : ModelGraph} {round : Round}

theorem Reached.inheritsInRange
    (reached : Reached graph round.descent (round.opened :: round.outer)) :
    round.InheritsInRange := by
  intro source lineage _ inherited _
  have indexed := (reached.holdsOwn.opened round.opened List.mem_cons_self).indexed
  rw [OpenModel.roster_foldl_inheritField]
  exact (indexed.offerAll inherited).inRange

theorem Reached.findsCircles
    (reached : Reached graph round.descent (round.opened :: round.outer)) :
    round.FindsCircles :=
  fun _ entered => reached.trailed.exists_idxOf?_path entered

/--
The descent through any graph comes to an end.  It enters no name twice and goes
round its loop at most as often as the models entered have ancestors, and twice more
for each.  When a model is entered and in every round, names are looked up at
positions that a roster has, and a name that is met again is found on the path.
-/
theorem exists_course_ofGraph (graph : ModelGraph) :
    ∃ entered rounds,
      Course graph graph.models .start [] entered rounds (ofGraph graph) ∧
        (entered.map Model.name).Nodup ∧
        rounds.length ≤ (entered.map fun model => model.ancestors.length + 2).sum ∧
        (∀ model ∈ entered, ∀ offered, offered <+: model.fields →
          ((∅ : FieldRoster).offerAll offered).InRange) ∧
        ∀ round ∈ rounds, round.InheritsInRange ∧ round.FindsCircles := by
  rcases exists_course_foldlM graph.models .start with ⟨entered, rounds, course⟩
  refine ⟨entered, rounds, course, course.fresh.distinct, ?bound, ?entering, ?looking⟩
  case bound => exact course.length_rounds_le
  case entering =>
    intro model _ offered _
    exact (FieldRoster.indexed_empty.offerAll offered).inRange
  case looking =>
    intro round listed
    have reached := course.reached .start (fun _ stored => stored) round listed
    exact ⟨reached.inheritsInRange, reached.findsCircles⟩

end Descent

end ModelLineage
