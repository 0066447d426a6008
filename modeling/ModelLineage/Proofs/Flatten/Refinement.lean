import ModelLineage.Proofs.Flatten.Cycles
import ModelLineage.Proofs.Flatten.RecursivePass
import ModelLineage.Proofs.Outcomes

/-!
# The descent refines the recursive pass

A model that waits on the stack for an ancestor is a visit that waits for a
recursive call.  The descent goes on with the whole stack; a call returns to what
called it.  So the statement about a call is that the descent, started with the
called model on top of any stack, comes to the point where just this stack is left
and the descent tracks what the call returned, or else halts with what the call
failed with.  It holds of every graph: that marks and lineages go by names, and
models by keys, is the same on both sides.
-/

namespace ModelLineage

/-- What a lineage has gathered. -/
def Lineage.gathering (lineage : Lineage) : Gathering :=
  ⟨lineage.fields, .ofIndex lineage.required⟩

/-! ## Merging -/

namespace OpenModel

/-- An open model has what was gathered for a model, and waits for some ancestors. -/
structure Tracks
    (opened : OpenModel)
    (model : Model)
    (gathering : Gathering)
    (ancestors : List String) : Prop where
  model : opened.model = model
  awaited : opened.model.ancestors.drop opened.next = ancestors
  fields : opened.roster.toList = gathering.fields
  required : NameSet.ofIndex opened.required = gathering.required
  indexed : opened.roster.Indexed

namespace Tracks

variable
    {opened : OpenModel}
    {model : Model}
    {gathering : Gathering}
    {ancestors : List String}

theorem ofModel (model : Model) :
    (OpenModel.ofModel model).Tracks model (.ofModel model) model.ancestors where
  model := rfl
  awaited := rfl
  fields := FieldRoster.indexed_empty.toList_offerAll model.fields
  required := by
    apply NameSet.ext_mem
    intro name
    exact NameSet.mem_ofIndex.trans NameSet.mem_index
  indexed := indexed_ofModel model

theorem advance
    {ancestor : String}
    (tracks : opened.Tracks model gathering (ancestor :: ancestors)) :
    opened.advance.Tracks model gathering ancestors where
  model := tracks.model
  awaited := by
    show opened.model.ancestors.drop (opened.next + 1) = ancestors
    rw [← List.drop_drop, tracks.awaited]
    rfl
  fields := tracks.fields
  required := tracks.required
  indexed := tracks.indexed

/-- An open model waits for the first of the ancestors. -/
theorem listed
    {ancestor : String}
    (tracks : opened.Tracks model gathering (ancestor :: ancestors)) :
    opened.model.ancestors[opened.next]? = some ancestor := by
  rw [← List.head?_drop, tracks.awaited]
  rfl

theorem exhausted
    (tracks : opened.Tracks model gathering []) :
    opened.model.ancestors[opened.next]? = none := by
  rw [← List.head?_drop, tracks.awaited]
  rfl

/-- Adopting a field with a new name is appending it to what was gathered. -/
theorem adopt
    {field : Field}
    (tracks : opened.Tracks model gathering ancestors)
    (inherited : Lineage)
    (free : opened.roster.holder? field.name = none) :
    (opened.adopt inherited field).Tracks model
      ⟨gathering.fields ++ [field],
        if field.name ∈ inherited.gathering.required then gathering.required.insert field.name
        else gathering.required⟩
      ancestors where
  model := tracks.model
  awaited := tracks.awaited
  fields := by
    rw [OpenModel.adopt, FieldRoster.toList_append, tracks.fields]
  required := by
    have demanded :
        field.name ∈ inherited.gathering.required ↔ field.name ∈ inherited.required :=
      NameSet.mem_ofIndex
    apply NameSet.ext_mem
    intro name
    rw [NameSet.mem_ofIndex, OpenModel.adopt, ← tracks.required]
    by_cases needed : field.name ∈ inherited.required
    · rw [if_pos needed, if_pos (demanded.mpr needed), Std.TreeSet.mem_insert,
        Std.LawfulEqCmp.compare_eq_iff_eq, NameSet.mem_insert, NameSet.mem_ofIndex,
        @eq_comm _ field.name]
    · rw [if_neg needed, if_neg (demanded.not.mpr needed), NameSet.mem_ofIndex]
  indexed := tracks.indexed.append free

/-- Inheriting one field is merging it. -/
theorem inheritField
    {source : String}
    {inherited : Lineage}
    {state : OpenModel × Array FieldConflict}
    {merged : Gathering × Array FieldConflict}
    (tracks : state.1.Tracks model merged.1 ancestors)
    (conflicts : state.2 = merged.2)
    (field : Field) :
    (OpenModel.inheritField source inherited state field).1.Tracks model
        (Gathering.mergeField model.name source inherited.gathering merged field).1 ancestors ∧
      (OpenModel.inheritField source inherited state field).2 =
        (Gathering.mergeField model.name source inherited.gathering merged field).2 := by
  have holder := tracks.indexed.holder?_eq field.name
  rw [tracks.fields] at holder
  rw [OpenModel.inheritField, Gathering.mergeField, ← holder]
  cases held : state.1.roster.holder? field.name with
  | none => exact ⟨tracks.adopt inherited held, conflicts⟩
  | some kept =>
      by_cases same : kept.type = field.type
      · simp only [if_pos same]
        exact ⟨tracks, conflicts⟩
      · simp only [if_neg same, conflicts, tracks.model]
        exact ⟨tracks, trivial⟩

/-- Inheriting a lineage is merging what it has gathered. -/
theorem inherit
    (tracks : opened.Tracks model gathering ancestors)
    (source : String)
    (inherited : Lineage) :
    (opened.inherit source inherited).1.Tracks model
        (gathering.merge model.name source inherited.gathering).1 ancestors ∧
      (opened.inherit source inherited).2 =
        (gathering.merge model.name source inherited.gathering).2 := by
  have each : ∀ (fields : List Field) (state : OpenModel × Array FieldConflict)
      (merged : Gathering × Array FieldConflict),
      state.1.Tracks model merged.1 ancestors →
        state.2 = merged.2 →
          (fields.foldl (OpenModel.inheritField source inherited) state).1.Tracks model
              (fields.foldl (Gathering.mergeField model.name source inherited.gathering)
                merged).1 ancestors ∧
            (fields.foldl (OpenModel.inheritField source inherited) state).2 =
              (fields.foldl (Gathering.mergeField model.name source inherited.gathering)
                merged).2 := by
    intro fields
    induction fields with
    | nil => exact fun _ _ tracks conflicts => ⟨tracks, conflicts⟩
    | cons field fields ih =>
        intro state merged tracks conflicts
        rcases tracks.inheritField conflicts field with ⟨tracksNext, conflictsNext⟩
        exact ih _ _ tracksNext conflictsNext
  exact each inherited.fields (opened, #[]) (gathering, #[]) tracks rfl

end Tracks

end OpenModel

/-! ## The state of the descent -/

namespace Descent

/-- The descent has stored and found what the visits have, on the path of a recursion. -/
structure Tracks
    (descent : Descent)
    (path : List String)
    (visits : Visits) : Prop where
  trail : descent.trail = path.reverse
  distinct : path.Nodup
  entered : ∀ name : String, descent.marks[name]? = some .entered ↔ name ∈ path
  left : ∀ name : String,
    descent.marks[name]? = some .left ↔ visits.entries.contains name = true
  entries : ∀ name : String,
    (descent.lineages[name]?).map Lineage.gathering = visits.entries.get? name
  report : descent.report = visits.report
  events : descent.events = visits.events

namespace Tracks

variable
    {descent : Descent}
    {opened : OpenModel}
    {path ancestors : List String}
    {visits : Visits}
    {model : Model}
    {gathering : Gathering}

theorem start : Descent.start.Tracks [] .start where
  trail := rfl
  distinct := List.nodup_nil
  entered := by
    intro name
    simp [Descent.start]
  left := by
    intro name
    constructor
    · intro marked
      simp [Descent.start] at marked
    · intro stored
      cases stored
  entries := by
    intro name
    simp [Descent.start]
    rfl
  report := rfl
  events := rfl

/-- A name without an entry and off the path has no mark. -/
theorem unmarked
    {name : String}
    (tracks : descent.Tracks path visits)
    (unvisited : visits.entries.contains name = false)
    (fresh : name ∉ path) :
    descent.marks[name]? = none := by
  cases known : descent.marks[name]? with
  | none => rfl
  | some mark =>
      cases mark with
      | entered => exact absurd ((tracks.entered name).mp known) fresh
      | left =>
          rw [(tracks.left name).mp known] at unvisited
          cases unvisited

theorem descendTo
    (tracks : descent.Tracks path visits)
    (unvisited : visits.entries.contains model.name = false)
    (fresh : model.name ∉ path) :
    (descent.descendTo model).Tracks (path ++ [model.name]) visits where
  trail := by
    show model.name :: descent.trail = _
    rw [tracks.trail, List.reverse_append]
    rfl
  distinct := by
    rw [List.nodup_append_comm]
    exact List.nodup_cons.mpr ⟨fresh, tracks.distinct⟩
  entered := by
    intro name
    rw [entered_descendTo_iff, tracks.entered, List.mem_append, List.mem_singleton, or_comm]
  left := by
    intro name
    rw [left_descendTo_iff (tracks.unmarked unvisited fresh)]
    exact tracks.left name
  entries := tracks.entries
  report := tracks.report
  events := tracks.events

theorem noteDangling
    (tracks : descent.Tracks path visits)
    (model ancestor : String) :
    (descent.noteDangling model ancestor).Tracks path (visits.noteDangling model ancestor) where
  trail := tracks.trail
  distinct := tracks.distinct
  entered := tracks.entered
  left := tracks.left
  entries := tracks.entries
  report := by
    rw [Descent.noteDangling, Visits.noteDangling, tracks.report]
  events := by
    rw [Descent.noteDangling, Visits.noteDangling, tracks.events]

theorem inheritFrom
    (tracks : descent.Tracks path visits)
    (tracksOpened : opened.Tracks model gathering ancestors)
    (source : String) :
    (descent.inheritFrom opened source).1.Tracks path
        (visits.mergeEntry model.name source gathering).1 ∧
      (descent.inheritFrom opened source).2.Tracks model
        (visits.mergeEntry model.name source gathering).2 ancestors := by
  rw [Descent.inheritFrom, Visits.mergeEntry, ← tracks.entries]
  cases descent.lineages[source]? with
  | none => exact ⟨tracks, tracksOpened⟩
  | some inherited =>
      rcases tracksOpened.inherit source inherited with ⟨tracksAfter, conflicts⟩
      refine ⟨?_, tracksAfter⟩
      constructor
      case trail => exact tracks.trail
      case distinct => exact tracks.distinct
      case entered => exact tracks.entered
      case left => exact tracks.left
      case entries => exact tracks.entries
      case report => simp only [Descent.noteConflicts, Option.map_some, tracks.report, conflicts]
      case events => simp only [Descent.noteConflicts, Option.map_some, tracks.events, conflicts]

theorem close
    (tracks : descent.Tracks (path ++ [model.name]) visits)
    (tracksOpened : opened.Tracks model gathering []) :
    (descent.close opened).Tracks path (visits.store model gathering) := by
  have named : opened.model.name = model.name := congrArg Model.name tracksOpened.model
  have distinct := tracks.distinct
  rw [List.nodup_append_comm, List.singleton_append, List.nodup_cons] at distinct
  constructor
  case trail =>
    show descent.trail.tail = _
    rw [tracks.trail, List.reverse_append]
    rfl
  case distinct => exact distinct.2
  case entered =>
    intro name
    rw [entered_close_iff, named, tracks.entered, List.mem_append, List.mem_singleton]
    constructor
    · rintro ⟨other, before | same⟩
      · exact before
      · exact absurd same other
    · intro before
      exact ⟨fun same => distinct.1 (same ▸ before), .inl before⟩
  case left =>
    intro name
    rw [left_close_iff, named, tracks.left]
    simp only [Visits.store, NameMap.contains, NameMap.get?_insert]
    split
    · rename_i same
      simp [same]
    · rename_i other
      simp [Ne.symm other]
  case entries =>
    intro name
    rw [Descent.close, named, getElem?_insert_name, Visits.store, NameMap.get?_insert]
    split
    · rw [Option.map_some, Lineage.gathering, tracksOpened.fields, tracksOpened.required]
    · exact tracks.entries name
  case report => exact tracks.report
  case events =>
    rw [Descent.close, Visits.store, tracks.events, tracksOpened.fields, tracksOpened.model]

/-- The circle at a name is the path from that name on, and the name again. -/
theorem circleAt_eq
    {name : String}
    (tracks : descent.Tracks path visits)
    (entered : name ∈ path) :
    descent.circleAt name = path.dropWhile (· ≠ name) ++ [name] := by
  have listed : name ∈ descent.trail := by
    rw [tracks.trail]
    exact List.mem_reverse.mpr entered
  rcases Descent.circleAt_eq listed with ⟨inner, rest, trail, circle⟩
  have path_eq : path = rest.reverse ++ name :: inner.reverse := by
    rw [← List.reverse_reverse path, ← tracks.trail, trail]
    simp
  have before : ∀ other ∈ rest.reverse, (decide (other ≠ name)) = true := by
    intro other member
    have distinct := tracks.distinct
    rw [path_eq] at distinct
    apply decide_eq_true
    rintro rfl
    exact (List.nodup_append.mp distinct).2.2 other member other List.mem_cons_self rfl
  rw [circle, path_eq, List.dropWhile_append_of_pos before, List.dropWhile_cons]
  simp

end Tracks

/-! ## Calls -/

variable
    {graph : ModelGraph}
    {index : graph.Index}
    {descent : Descent}
    {outer stack : List OpenModel}
    {path : List String}

/--
The descent comes down to the outer stack and tracks what a call returned, or it
halts with what the call failed with.
-/
def Completes
    (index : graph.Index)
    (path : List String)
    (descent : Descent)
    (stack outer : List OpenModel) : Except Interruption Visits → Prop
  | .error interruption => drain index descent stack = .error interruption
  | .ok visits =>
    ∃ descent', descent'.Tracks path visits ∧
      drain index descent stack = drain index descent' outer

/-- What a descent comes to on the way may complete the call in its place. -/
theorem Completes.of_drain
    {descent' : Descent} {stack' : List OpenModel} {outcome : Except Interruption Visits}
    (completes : Completes index path descent' stack' outer outcome)
    (onward : drain index descent stack = drain index descent' stack') :
    Completes index path descent stack outer outcome := by
  cases outcome with
  | error interruption => exact onward.trans completes
  | ok visits =>
      rcases completes with ⟨final, tracks, rest⟩
      exact ⟨final, tracks, onward.trans rest⟩

end Descent

namespace ModelGraph

variable {graph : ModelGraph}

/-- A visited model has an entry. -/
theorem contains_of_visit
    {path : List String} {visits visits' : Visits} {model : Model}
    {stored : model ∈ graph.models} {fresh : model.name ∉ path}
    (done : graph.visit path visits model stored fresh = .ok visits') :
    visits'.entries.contains model.name = true := by
  rw [visit] at done
  rcases exists_of_bind_eq_ok done with ⟨⟨before, gathering⟩, _, same⟩
  cases same
  rw [Visits.store, NameMap.contains, NameMap.get?_insert, if_pos rfl]
  rfl

end ModelGraph

namespace Descent

variable {graph : ModelGraph} {index : graph.Index}

/-- An ancestor that was visited is merged, in one step of the descent. -/
theorem collects
    {descent : Descent} {path ancestors : List String} {visits : Visits} {opened : OpenModel}
    {model parent : Model} {gathering : Gathering} {ancestor : String}
    (tracks : descent.Tracks path visits)
    (tracksOpened : opened.Tracks model gathering (ancestor :: ancestors))
    (found : graph.get? ancestor = some parent)
    (visited : visits.entries.contains parent.name = true)
    (outer : List OpenModel) :
    ∃ descent' opened',
      descent'.Tracks path (visits.mergeEntry model.name ancestor gathering).1 ∧
        opened'.Tracks model (visits.mergeEntry model.name ancestor gathering).2 ancestors ∧
        drain index descent (opened :: outer) = drain index descent' (opened' :: outer) := by
  rcases tracks.inheritFrom tracksOpened ancestor with ⟨after, openedAfter⟩
  have rule : Rule graph descent opened outer _ :=
    .collect tracksOpened.listed found ((tracks.left parent.name).mpr visited)
  exact ⟨_, _, after, openedAfter.advance, drain_of_next (rule.step_eq index)⟩

mutual

/-- The descent from a model that was just entered completes the visit of it. -/
theorem completes_visit
    {descent : Descent} {path : List String} {visits : Visits} {model : Model}
    (tracks : descent.Tracks path visits)
    (unvisited : visits.entries.contains model.name = false)
    (stored : model ∈ graph.models)
    (fresh : model.name ∉ path)
    (outer : List OpenModel) :
    Completes index path (descent.descendTo model) (OpenModel.ofModel model :: outer) outer
      (graph.visit path visits model stored fresh) := by
  rw [ModelGraph.visit]
  exact completes_gather (tracks.descendTo unvisited fresh) (.ofModel model) outer
termination_by (graph.countOff path, 0)
decreasing_by exact .left _ _ (ModelGraph.countOff_append_lt stored fresh)

/-- The descent from an open model completes what is still to be gathered for it. -/
theorem completes_gather
    {descent : Descent} {path ancestors : List String} {visits : Visits} {opened : OpenModel}
    {model : Model} {gathering : Gathering}
    (tracks : descent.Tracks (path ++ [model.name]) visits)
    (tracksOpened : opened.Tracks model gathering ancestors)
    (outer : List OpenModel) :
    Completes index path descent (opened :: outer) outer
      (graph.gather (path ++ [model.name]) model visits gathering ancestors >>= fun done =>
        return done.1.store model done.2) := by
  cases ancestors with
  | nil =>
      rw [ModelGraph.gather]
      exact ⟨_, tracks.close tracksOpened,
        drain_of_next ((Rule.close tracksOpened.exhausted).step_eq index)⟩
  | cons ancestor ancestors =>
      rw [ModelGraph.gather]
      split
      · rename_i missing
        have rule : Rule graph descent opened outer _ := .skip tracksOpened.listed missing
        rw [tracksOpened.model] at rule
        exact (completes_gather (tracks.noteDangling model.name ancestor)
          tracksOpened.advance outer).of_drain (drain_of_next (rule.step_eq index))
      · rename_i parent found
        split
        · rename_i entered
          have rule : Rule graph descent opened outer _ :=
            .circle tracksOpened.listed found ((tracks.entered parent.name).mpr entered)
          rw [tracks.circleAt_eq entered, tracks.events] at rule
          exact drain_of_halt (rule.step_eq index)
        · rename_i fresh
          by_cases visited : visits.entries.contains parent.name = true
          · rw [if_pos visited]
            rcases collects tracks tracksOpened found visited outer with
              ⟨_, _, after, openedAfter, onward⟩
            exact (completes_gather after openedAfter outer).of_drain onward
          · rw [if_neg visited]
            have unvisited := Bool.eq_false_iff.mpr visited
            have rule : Rule graph descent opened outer _ :=
              .enter tracksOpened.listed found (tracks.unmarked unvisited fresh)
            have entering := drain_of_next (rule.step_eq index)
            have call := completes_visit tracks unvisited (mem_models_of_get? found) fresh
              (opened :: outer)
            cases done : graph.visit (path ++ [model.name]) visits parent
                (mem_models_of_get? found) fresh with
            | error interruption =>
                rw [done] at call
                exact entering.trans call
            | ok visited =>
                rw [done] at call
                rcases call with ⟨_, returned, back⟩
                rcases collects returned tracksOpened found
                    (ModelGraph.contains_of_visit done) outer with
                  ⟨_, _, after, openedAfter, onward⟩
                exact (completes_gather after openedAfter outer).of_drain
                  ((entering.trans back).trans onward)
termination_by (graph.countOff (path ++ [model.name]), ancestors.length + 1)

end

/-! ## The whole descent -/

/-- A part of the descent fails as the visits do, or tracks them in the end. -/
def Answers (outcome : Except Interruption Descent) : Except Interruption Visits → Prop
  | .error interruption => outcome = .error interruption
  | .ok visits => ∃ descent, outcome = .ok descent ∧ descent.Tracks [] visits

/-- Off the path, the names with a mark are those with an entry. -/
theorem Tracks.contains_marks
    {descent : Descent} {visits : Visits}
    (tracks : descent.Tracks [] visits)
    (name : String) :
    descent.marks.contains name = visits.entries.contains name := by
  rw [Std.TreeMap.contains_eq_isSome_getElem?]
  cases visited : visits.entries.contains name with
  | true =>
      rw [(tracks.left name).mpr visited]
      rfl
  | false =>
      rw [tracks.unmarked visited List.not_mem_nil]
      rfl

theorem answers_descendFrom
    {descent : Descent} {visits : Visits} {root : Model}
    (index : graph.Index)
    (tracks : descent.Tracks [] visits)
    (stored : root ∈ graph.models) :
    Answers (descendFrom index descent root)
      (if visits.entries.contains root.name then .ok visits
        else graph.visit [] visits root stored List.not_mem_nil) := by
  rw [descendFrom, tracks.contains_marks]
  by_cases visited : visits.entries.contains root.name = true
  · rw [if_pos visited, if_pos visited]
    exact ⟨descent, rfl, tracks⟩
  · rw [if_neg visited, if_neg visited]
    have call : Completes index _ _ _ [] _ :=
      completes_visit tracks (Bool.eq_false_iff.mpr visited) stored List.not_mem_nil []
    cases done : graph.visit [] visits root stored List.not_mem_nil with
    | error interruption =>
        rw [done] at call
        exact call
    | ok visits' =>
        rw [done] at call
        rcases call with ⟨descent', returned, back⟩
        refine ⟨descent', ?_, returned⟩
        rw [back, drain]

theorem answers_foldlM_descendFrom
    {descent : Descent} {visits : Visits}
    (index : graph.Index)
    (roots : List Model)
    (tracks : descent.Tracks [] visits)
    (stored : ∀ root ∈ roots, root ∈ graph.models) :
    Answers (roots.foldlM (descendFrom index) descent) (graph.visitAll visits roots stored) := by
  induction roots generalizing descent visits with
  | nil =>
      rw [ModelGraph.visitAll]
      exact ⟨descent, rfl, tracks⟩
  | cons root roots ih =>
      have first := answers_descendFrom index tracks (stored root List.mem_cons_self)
      rw [List.foldlM_cons, ModelGraph.visitAll]
      revert first
      generalize (if visits.entries.contains root.name = true then _ else _ :
        Except Interruption Visits) = visited
      intro first
      cases visited with
      | error interruption =>
          have halted : descendFrom index descent root = .error interruption := first
          rw [halted]
          rfl
      | ok visits' =>
          rcases first with ⟨descent', walked, after⟩
          rw [walked]
          exact ih after fun other listed => stored other (List.mem_cons_of_mem _ listed)

end Descent

namespace ModelGraph

/-- Handing out the lineages gives each model what was gathered under its name. -/
theorem handOut_eq_assemble
    {lineages : Std.TreeMap String Lineage} {entries : NameMap Gathering} {seen : List String}
    (models : List Model)
    (same : ∀ name : String,
      (lineages[name]?).map Lineage.gathering =
        if name ∈ seen then none else entries.get? name) :
    handOut lineages models = assemble entries seen models := by
  induction models generalizing lineages seen with
  | nil => rfl
  | cons model models ih =>
      rw [handOut, assemble, ← same]
      cases kept : lineages[model.name]? with
      | none =>
          have missing := same model.name
          rw [kept] at missing
          show model :: handOut lineages models = model :: assemble entries _ models
          congr 1
          apply ih
          intro name
          rw [same name]
          by_cases named : name = model.name
          · subst named
            simp [← missing]
          · simp [named]
      | some lineage =>
          show lineage.applyTo model :: handOut _ models =
            lineage.applyTo model :: assemble entries _ models
          congr 1
          apply ih
          intro name
          simp only [Std.TreeMap.getElem?_erase, Std.LawfulEqCmp.compare_eq_iff_eq]
          by_cases named : name = model.name
          · subst named
            simp
          · rw [if_neg (Ne.symm named), same name]
            simp [named]

/--
Flattening a graph is flattening it recursively: the same graph and findings in
the same order, or the same cycle, and in either case the same events.
-/
theorem flatten_eq_flattenRecursively (graph : ModelGraph) :
    graph.flatten = graph.flattenRecursively := by
  have answers := Descent.answers_foldlM_descendFrom graph.index graph.models .start
    fun _ listed => listed
  rw [flatten, flattenRecursively, Descent.ofGraph]
  cases done : graph.visitAll .start graph.models fun _ listed => listed with
  | error interruption =>
      rw [done] at answers
      rw [answers]
      rfl
  | ok visits =>
      rw [done] at answers
      rcases answers with ⟨descent, walked, tracks⟩
      have assembled :
          handOut descent.lineages graph.models = assemble visits.entries [] graph.models := by
        apply handOut_eq_assemble
        intro name
        rw [tracks.entries, if_neg List.not_mem_nil]
      rw [walked]
      show Except.ok (Flattening.mk _ descent.report descent.events) =
        .ok ⟨ofModels (assemble visits.entries [] graph.models), visits.report, visits.events⟩
      rw [tracks.report, tracks.events, assembled]

end ModelGraph

end ModelLineage
