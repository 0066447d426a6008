import ModelLineage.Command.Execution
import ModelLineage.Proofs.Storage.Stores

/-!
# The command that flattens

The command has five ways to go: its library is unknown, its document cannot be
loaded, the strict check refuses the graph, the ancestors run in a circle, or there
is a flattened graph to be delivered.  None of them touches the store before the
delivery.  Telling about it and delivering it change the remarks and the output.
-/

namespace ModelLineage

/-- A run of two parts, the first of which is known. -/
theorem run_bind_of_eq
    {State First Value : Type}
    {first : StateM State First} {next : First → StateM State Value}
    {found : First} {before after : State}
    (run : first.run before = (found, after)) :
    (first >>= next).run before = (next found).run after := by
  rw [StateT.run_bind, run]
  rfl

namespace FileStore

/-- The text of a file. -/
def textAt (store : FileStore) (path : String) : Except StorageFault String := do
  let bytes ← store.read path
  match String.fromUTF8? bytes with
  | some text => return text
  | none => throw .notText

/-- The graph that is loaded from a file. -/
def graphAt (store : FileStore) (path : String) : Except LoadError ModelGraph := do
  let text ← (store.textAt path).mapError .storage
  ModelGraph.load text

/-- A file that holds the bytes of a text holds the text. -/
theorem textAt_of_read
    {store : FileStore} {path text : String}
    (found : store.read path = .ok text.toUTF8) :
    store.textAt path = .ok text := by
  have decoded : String.fromUTF8? text.toUTF8 = some text := by
    rw [String.toUTF8_eq_toByteArray, String.fromUTF8?, dif_pos text.isValidUTF8]
    rfl
  rw [textAt, found, ok_bind, decoded]
  rfl

theorem graphAt_of_read
    {store : FileStore} {path text : String}
    (found : store.read path = .ok text.toUTF8) :
    store.graphAt path = ModelGraph.load text := by
  rw [graphAt, textAt_of_read found]
  rfl

theorem run_readText (store : FileStore) (path : String) :
    (surroundings.readText path).run store = (store.textAt path, store) := by
  have run : (surroundings.read path).run store = (store.read path, store) := rfl
  rw [FileAccess.readText, run_bind_of_eq run, textAt]
  cases store.read path with
  | error fault => rfl
  | ok bytes =>
      cases decoded : String.fromUTF8? bytes <;>
        simp only [ok_bind, decoded] <;> rfl

theorem run_loadFile (store : FileStore) (path : String) :
    (ModelGraph.loadFile surroundings.toFileAccess path).run store =
      (store.graphAt path, store) := by
  rw [ModelGraph.loadFile, run_bind_of_eq (store.run_readText path), graphAt]
  cases store.textAt path <;> rfl

end FileStore

/-- How a flatten command goes up to the delivery of its result. -/
inductive FlattenRule
    (store : FileStore)
    (input : String)
    (output : Option String)
    (strict : Bool)
    (choices : Settings.Choices) : Execution → Prop where
  | unknownLibrary
      {unknown : Settings.UnknownLibrary}
      (chosen : Settings.ofChoices choices = .error unknown) :
      FlattenRule store input output strict choices (.failedRun (.unknownLibrary unknown) #[])
  | notLoaded
      {settings : Settings} {error : LoadError}
      (chosen : Settings.ofChoices choices = .ok settings)
      (loaded : store.graphAt input = .error error) :
      FlattenRule store input output strict choices (.failed (.loading input error) #[])
  | inconsistent
      {settings : Settings} {graph : ModelGraph} {found : Inconsistency}
      (chosen : Settings.ofChoices choices = .ok settings)
      (loaded : store.graphAt input = .ok graph)
      (checked : graph.checkIf strict = .error found) :
      FlattenRule store input output strict choices (.failedRun (.inconsistent found) #[])
  | cyclic
      {settings : Settings} {graph : ModelGraph} {interruption : Interruption}
      (chosen : Settings.ofChoices choices = .ok settings)
      (loaded : store.graphAt input = .ok graph)
      (checked : graph.checkIf strict = .ok ())
      (done : graph.flatten = .error interruption) :
      FlattenRule store input output strict choices
        (.failedRun (.cyclicInheritance interruption.cycle) interruption.events)
  | flattened
      {settings : Settings} {graph : ModelGraph} {flattening : Flattening}
      (chosen : Settings.ofChoices choices = .ok settings)
      (loaded : store.graphAt input = .ok graph)
      (checked : graph.checkIf strict = .ok ())
      (done : graph.flatten = .ok flattening) :
      FlattenRule store input output strict choices
        ⟨flattening.events.push (Generator.summary flattening),
          .ok ⟨deliveryOf flattening.graph output,
            some (Banner.text (some flattening.graph))⟩⟩

section

variable
    {store : FileStore}
    {input : String}
    {output : Option String}
    {strict : Bool}
    {choices : Settings.Choices}

theorem FlattenRule.run_eq
    {execution : Execution}
    (rule : FlattenRule store input output strict choices execution) :
    (Command.runFlatten FileStore.surroundings.toFileAccess input output strict choices).run store =
      (execution, store) := by
  rw [Command.runFlatten]
  cases rule with
  | unknownLibrary chosen =>
      rw [chosen]
      rfl
  | notLoaded chosen loaded =>
      simp only [chosen, run_bind_of_eq (store.run_loadFile input), loaded]
      rfl
  | inconsistent chosen loaded checked =>
      simp only [chosen, run_bind_of_eq (store.run_loadFile input), loaded, checked]
      rfl
  | cyclic chosen loaded checked done =>
      simp only [chosen, run_bind_of_eq (store.run_loadFile input), loaded, checked,
        Generator.process, done]
      rfl
  | flattened chosen loaded checked done =>
      simp only [chosen, run_bind_of_eq (store.run_loadFile input), loaded, checked,
        Generator.process, done]
      rfl

/-- One of the ways is taken, and the store is as it was. -/
theorem exists_flattenRule
    (store : FileStore)
    (input : String)
    (output : Option String)
    (strict : Bool)
    (choices : Settings.Choices) :
    ∃ execution, FlattenRule store input output strict choices execution := by
  cases chosen : Settings.ofChoices choices with
  | error unknown => exact ⟨_, .unknownLibrary chosen⟩
  | ok settings =>
      cases loaded : store.graphAt input with
      | error error => exact ⟨_, .notLoaded chosen loaded⟩
      | ok graph =>
          cases checked : graph.checkIf strict with
          | error found => exact ⟨_, .inconsistent chosen loaded checked⟩
          | ok _ =>
              cases done : graph.flatten with
              | error interruption => exact ⟨_, .cyclic chosen loaded checked done⟩
              | ok flattening => exact ⟨_, .flattened chosen loaded checked done⟩

end

/-! ## Putting out the result -/

/-- A document as it is put out: a printed one ends with a newline. -/
def outputText (output : Option String) (document : String) : String :=
  match output with
  | none => document ++ "\n"
  | some _ => document

/-- The store with a document printed or written to a file. -/
def FileStore.putOut
    (store : FileStore)
    (output : Option String)
    (document : String) : Except StorageFault FileStore :=
  match output with
  | none => .ok (store.addResult (outputText none document).toUTF8)
  | some path => store.write path document.toUTF8

theorem run_remark (store : FileStore) (text : String) :
    (FileStore.surroundings.remark text).run store = ((), store.addRemark text.toUTF8) :=
  rfl

theorem run_saveFile
    (graph : ModelGraph)
    (store : FileStore)
    (path : String) :
    (graph.saveFile FileStore.surroundings.toFileAccess path).run store =
      match store.write path graph.document.toUTF8 with
      | .ok written => (.ok (), written)
      | .error fault => (.error (.storage fault), store) := by
  rw [ModelGraph.saveFile]
  cases written : store.write path graph.document.toUTF8 with
  | ok _ =>
      simp only [FileStore.surroundings, StateT.run_bind, StateT.run_get, pure_bind, written]
      rfl
  | error _ =>
      simp only [FileStore.surroundings, StateT.run_bind, StateT.run_get, pure_bind, written]
      rfl

section

variable
    {filter : LogFilter}
    {store written after : FileStore}
    {output : Option String}
    {graph : ModelGraph}
    {events : Array Event}
    {closing : Option String}

theorem run_perform_of_putOut
    (delivered : store.putOut output graph.document = .ok written) :
    ∃ events, ((deliveryOf graph output).perform FileStore.surroundings).run store =
      (.ok events, written) := by
  cases output with
  | none =>
      cases delivered
      exact ⟨[], rfl⟩
  | some path =>
      have saved := run_saveFile graph store path
      rw [show store.write path graph.document.toUTF8 = .ok written from delivered] at saved
      refine ⟨[.graphWritten graph.size path], ?_⟩
      rw [deliveryOf, Delivery.perform, run_bind_of_eq saved]
      rfl

theorem run_perform_of_putOut_error
    {fault : StorageFault}
    (refused : store.putOut output graph.document = .error fault) :
    ∃ failure, ((deliveryOf graph output).perform FileStore.surroundings).run store =
      (.error failure, store) := by
  cases output with
  | none => cases refused
  | some path =>
      have saved := run_saveFile graph store path
      rw [show store.write path graph.document.toUTF8 = .error fault from refused] at saved
      refine ⟨.writing path (.storage fault), ?_⟩
      rw [deliveryOf, Delivery.perform, run_bind_of_eq saved]
      rfl

/-- Documents are put out in the same way whatever was remarked before. -/
theorem exists_putOut_of_unremarked_eq
    {other : FileStore} {document : String}
    (same : other.unremarked = store.unremarked)
    (delivered : store.putOut output document = .ok written) :
    ∃ written', other.putOut output document = .ok written' ∧
      written'.unremarked = written.unremarked := by
  cases output with
  | none =>
      cases delivered
      exact ⟨_, rfl, congrArg (·.addResult (outputText none document).toUTF8) same⟩
  | some path => exact FileStore.exists_write_of_unremarked_eq same delivered

/-- A result that can be put out is put out. -/
theorem run_finish_of_putOut
    (filter : LogFilter)
    (events : Array Event)
    (closing : Option String)
    (delivered : store.putOut output graph.document = .ok written) :
    ∃ after,
      ((Execution.mk events (.ok ⟨deliveryOf graph output, closing⟩)).finish
          FileStore.surroundings filter).run store = (0, after) ∧
        after.unremarked = written.unremarked := by
  have unseen := FileStore.unremarked_addRemark store (filter.text events.toList).toUTF8
  rcases exists_putOut_of_unremarked_eq unseen delivered with ⟨written', delivered', same⟩
  rcases run_perform_of_putOut delivered' with ⟨later, performed⟩
  let told := (written'.addRemark (filter.text later).toUTF8).addRemark
    (textOfLines closing.toList).toUTF8
  refine ⟨told, ?_, same⟩
  rw [Execution.finish, run_bind_of_eq (run_remark store _), run_bind_of_eq performed]
  rfl

/-- A result that cannot be put out is a failure, and the store is as it was. -/
theorem run_finish_of_putOut_error
    {fault : StorageFault}
    (filter : LogFilter)
    (events : Array Event)
    (closing : Option String)
    (refused : store.putOut output graph.document = .error fault) :
    ∃ after,
      ((Execution.mk events (.ok ⟨deliveryOf graph output, closing⟩)).finish
          FileStore.surroundings filter).run store = (1, after) ∧
        after.unremarked = store.unremarked := by
  have unseen := FileStore.unremarked_addRemark store (filter.text events.toList).toUTF8
  cases told : (store.addRemark (filter.text events.toList).toUTF8).putOut output
      graph.document with
  | ok written =>
      rcases exists_putOut_of_unremarked_eq unseen.symm told with ⟨_, delivered, _⟩
      rw [refused] at delivered
      cases delivered
  | error fault' =>
      rcases run_perform_of_putOut_error told with ⟨failure, performed⟩
      let reported := (store.addRemark (filter.text events.toList).toUTF8).addRemark
        (textOfLines failure.report).toUTF8
      refine ⟨reported, ?_, unseen⟩
      rw [Execution.finish, run_bind_of_eq (run_remark store _), run_bind_of_eq performed]
      rfl

end

/-! ## The whole command -/

/-- The exit code of a request and the store after it. -/
def FileStore.perform
    (store : FileStore)
    (requestedFilter : Option String)
    (request : Request) : Nat × FileStore :=
  (request.perform surroundings requestedFilter).run store

section

variable
    {requestedFilter : Option String}
    {verbosity : Nat}
    {input : String}
    {output library projectName : Option String}
    {strict : Bool}
    {store written after : FileStore}

theorem FlattenRule.perform_eq
    {execution : Execution}
    (rule : FlattenRule store input output strict ⟨library, projectName, none⟩ execution)
    (requestedFilter : Option String)
    (verbosity : Nat) :
    store.perform requestedFilter
        (.run verbosity (.flatten input output strict library projectName)) =
      (execution.finish FileStore.surroundings (.ofRequest requestedFilter verbosity)).run
        store := by
  rw [FileStore.perform, Request.perform, Command.run, run_bind_of_eq rule.run_eq]

/-- A command that gets as far as a flattened graph ends well if the document can be put out. -/
theorem exists_perform_of_putOut
    {settings : Settings} {graph : ModelGraph} {flattening : Flattening}
    (requestedFilter : Option String)
    (verbosity : Nat)
    (chosen : Settings.ofChoices ⟨library, projectName, none⟩ = .ok settings)
    (loaded : store.graphAt input = .ok graph)
    (checked : graph.checkIf strict = .ok ())
    (done : graph.flatten = .ok flattening)
    (delivered : store.putOut output flattening.graph.document = .ok written) :
    ∃ after,
      store.perform requestedFilter
          (.run verbosity (.flatten input output strict library projectName)) = (0, after) ∧
        after.unremarked = written.unremarked := by
  rw [(FlattenRule.flattened chosen loaded checked done).perform_eq]
  exact run_finish_of_putOut _ _ _ delivered

/-- A command that ends well has put out the flattened form of the graph it has loaded. -/
theorem exists_flattened_of_perform
    (ended :
      store.perform requestedFilter
        (.run verbosity (.flatten input output strict library projectName)) = (0, after)) :
    ∃ settings graph flattening written,
      Settings.ofChoices ⟨library, projectName, none⟩ = .ok settings ∧
        store.graphAt input = .ok graph ∧
        graph.checkIf strict = .ok () ∧
        graph.flatten = .ok flattening ∧
        store.putOut output flattening.graph.document = .ok written ∧
        after.unremarked = written.unremarked := by
  rcases exists_flattenRule store input output strict ⟨library, projectName, none⟩ with
    ⟨execution, rule⟩
  rw [rule.perform_eq] at ended
  cases rule with
  | unknownLibrary _ | notLoaded _ _ | inconsistent _ _ _ | cyclic _ _ _ _ => cases ended
  | @flattened settings graph flattening chosen loaded checked done =>
      cases delivered : store.putOut output flattening.graph.document with
      | ok written =>
          rcases run_finish_of_putOut _ _ _ delivered with ⟨after', finished, same⟩
          cases ended.symm.trans finished
          exact ⟨settings, graph, flattening, written, chosen, loaded, checked, done, delivered,
            same⟩
      | error fault =>
          rcases run_finish_of_putOut_error _ _ _ delivered with ⟨after', finished, _⟩
          cases ended.symm.trans finished

end

end ModelLineage
