import ModelLineage.Proofs.Command.Flattening
import ModelLineage.Proofs.Flatten.Idempotence
import ModelLineage.Proofs.Flatten.Preservation

/-!
# Flattening what was flattened

A flattened graph of a document is loaded from its own document, passes the strict
check if the original passes it, and is flattened to itself.  So its document is a
fixed point of loading, flattening and writing, and the command that has put it
out puts it out again when it is given its own output.
-/

namespace ModelLineage

namespace ModelGraph

variable {graph flat : ModelGraph} {flattening : Flattening} {text : String}

theorem flattenText_eq_ok_iff :
    flattenText text = .ok flat ↔
      ∃ graph flattening, load text = .ok graph ∧ graph.flatten = .ok flattening ∧
        flattening.graph = flat := by
  constructor
  · intro done
    rcases exists_of_bind_eq_ok done with ⟨graph, loaded, later⟩
    rcases exists_of_bind_eq_ok later with ⟨flattening, flattened, same⟩
    exact ⟨graph, flattening, ok_of_mapError_eq_ok loaded, ok_of_mapError_eq_ok flattened,
      Except.ok.inj same⟩
  · rintro ⟨graph, flattening, loaded, done, rfl⟩
    rw [flattenText, loaded]
    show (graph.flattened >>= fun flattened => pure flattened.graph) = _
    rw [flattened, done]
    rfl

/-- What is flattened after loading can be loaded again. -/
theorem sound_and_shallow_of_flatten
    (loaded : load text = .ok graph)
    (done : graph.flatten = .ok flattening) :
    flattening.graph.Sound ∧ flattening.graph.Shallow := by
  rcases sound_and_shallow_of_load loaded with ⟨sound, shallow⟩
  have flattens := flattens_of_flatten sound.keyed done
  have grounded := grounded_of_flatten sound.keyed done
  exact ⟨flattens.sound grounded sound, flattens.shallow grounded shallow⟩

theorem checkIf_flattened
    {strict : Bool}
    (loaded : load text = .ok graph)
    (done : graph.flatten = .ok flattening)
    (checked : graph.checkIf strict = .ok ()) :
    flattening.graph.checkIf strict = .ok () := by
  cases strict with
  | false => rfl
  | true =>
      have sound := (sound_and_shallow_of_load loaded).1
      have flattens := flattens_of_flatten sound.keyed done
      have consistent := flattens.consistent_iff (grounded_of_flatten sound.keyed done) sound
      exact check_eq_ok_iff.mpr (consistent.mpr (check_eq_ok_iff.mp checked))

/-- A document that is put out is loaded, printed or not. -/
theorem load_outputText
    (loaded : load text = .ok graph)
    (done : graph.flatten = .ok flattening)
    (output : Option String) :
    load (outputText output flattening.graph.document) = .ok flattening.graph := by
  rcases sound_and_shallow_of_flatten loaded done with ⟨sound, shallow⟩
  cases output with
  | none =>
      have blank : ∀ char ∈ "\n".toList, Json.isBlank char = true := by
        simp [Json.isBlank]
      exact load_document_append_of_shallow sound shallow blank
  | some path => exact load_document_of_shallow sound shallow

theorem flattenText_outputText
    (loaded : load text = .ok graph)
    (done : graph.flatten = .ok flattening)
    (output : Option String) :
    flattenText (outputText output flattening.graph.document) = .ok flattening.graph := by
  have keyed := (sound_and_shallow_of_load loaded).1.keyed
  rcases flatten_again_report keyed done with ⟨second, again, _⟩
  exact flattenText_eq_ok_iff.mpr ⟨_, second, load_outputText loaded done output, again,
    graph_flatten_again keyed done again⟩

end ModelGraph

namespace Settings

/-- The settings depend on nothing but whether the library is known. -/
theorem exists_ofChoices_iff {choices : Choices} :
    (∃ settings, ofChoices choices = .ok settings) ↔
      libraries.contains (choices.library.getD standard.library) = true := by
  rw [ofChoices]
  split
  · rename_i known
    exact iff_of_true ⟨_, rfl⟩ known
  · rename_i unknown
    refine iff_of_false ?_ unknown
    rintro ⟨settings, chosen⟩
    cases chosen

/-- Where some library is accepted, it is accepted again, and so is leaving it open. -/
theorem exists_ofChoices_again
    {first second : Choices} {settings : Settings}
    (chosen : ofChoices first = .ok settings)
    (same : second.library = none ∨ second.library = first.library) :
    ∃ settings', ofChoices second = .ok settings' := by
  rw [exists_ofChoices_iff]
  rcases same with left | kept
  · rw [left]
    decide +kernel
  · rw [kept]
    exact exists_ofChoices_iff.mp ⟨settings, chosen⟩

end Settings

/-- A command that finds what was put out puts the same document out again. -/
theorem exists_perform_of_outputText
    {requestedFilter output library projectName nextOutput : Option String}
    {verbosity : Nat}
    {text input : String}
    {strict : Bool}
    {store written : FileStore}
    {settings : Settings} {graph : ModelGraph} {flattening : Flattening}
    (loaded : ModelGraph.load text = .ok graph)
    (checked : graph.checkIf strict = .ok ())
    (done : graph.flatten = .ok flattening)
    (chosen : Settings.ofChoices ⟨library, projectName, none⟩ = .ok settings)
    (holds : store.read input = .ok (outputText output flattening.graph.document).toUTF8)
    (delivered : store.putOut nextOutput flattening.graph.document = .ok written) :
    ∃ after,
      store.perform requestedFilter
          (.run verbosity (.flatten input nextOutput strict library projectName)) = (0, after) ∧
        after.unremarked = written.unremarked := by
  have keyed := (ModelGraph.sound_and_shallow_of_load loaded).1.keyed
  rcases ModelGraph.flatten_again_report keyed done with ⟨second, again, _⟩
  have found : store.graphAt input = .ok flattening.graph :=
    (FileStore.graphAt_of_read holds).trans (ModelGraph.load_outputText loaded done output)
  rw [← ModelGraph.graph_flatten_again keyed done again] at delivered
  exact exists_perform_of_putOut _ _ chosen found
    (ModelGraph.checkIf_flattened loaded done checked) again delivered

/--
Flattening the document of a flattened graph gives the same graph.  A command that
ends well puts out such a document.  What it puts out is accepted again: in whatever
store it is found, and wherever the result is to go, the command ends well and puts
out the same document, with the same library or none and the same strictness.
-/
theorem flatten_output_fixed :
    (∀ text flat, ModelGraph.flattenText text = .ok flat →
        ModelGraph.flattenText flat.document = .ok flat) ∧
      ∀ requestedFilter verbosity input output strict library projectName
          (store after : FileStore),
        store.perform requestedFilter
            (.run verbosity (.flatten input output strict library projectName)) = (0, after) →
          ∃ text flat written,
            store.textAt input = .ok text ∧
              ModelGraph.flattenText text = .ok flat ∧
              store.putOut output flat.document = .ok written ∧
              after.unremarked = written.unremarked ∧
              ModelGraph.flattenText (outputText output flat.document) = .ok flat ∧
              ∀ requestedFilter' verbosity' input' output' library' projectName'
                  (store' written' : FileStore),
                store'.read input' = .ok (outputText output flat.document).toUTF8 →
                  (library' = none ∨ library' = library) →
                  store'.putOut output' flat.document = .ok written' →
                  ∃ after',
                    store'.perform requestedFilter'
                        (.run verbosity'
                          (.flatten input' output' strict library' projectName')) =
                        (0, after') ∧
                      after'.unremarked = written'.unremarked := by
  constructor
  · intro text flat done
    rcases ModelGraph.flattenText_eq_ok_iff.mp done with
      ⟨graph, flattening, loaded, flattened, rfl⟩
    -- What is written to a file, whichever it is, is the document as it stands.
    exact ModelGraph.flattenText_outputText loaded flattened (some text)
  · intro requestedFilter verbosity input output strict library projectName store after ended
    rcases exists_flattened_of_perform ended with
      ⟨settings, graph, flattening, written, chosen, found, checked, flattened, delivered, same⟩
    rcases exists_of_bind_eq_ok found with ⟨text, read, loaded⟩
    refine ⟨text, flattening.graph, written, ok_of_mapError_eq_ok read, ?_, delivered, same,
      ModelGraph.flattenText_outputText loaded flattened output, ?_⟩
    · exact ModelGraph.flattenText_eq_ok_iff.mpr ⟨graph, flattening, loaded, flattened, rfl⟩
    · intro requestedFilter' verbosity' input' output' library' projectName' store' written'
        holds sameLibrary delivered'
      have accepted :
          ∃ settings', Settings.ofChoices ⟨library', projectName', none⟩ = .ok settings' :=
        Settings.exists_ofChoices_again chosen sameLibrary
      rcases accepted with ⟨settings', chosen'⟩
      exact exists_perform_of_outputText loaded checked flattened chosen' holds delivered'

/-- Models that inherit along two lines, all that they refer to among them. -/
def kennel : ModelGraph :=
  .ofModels
    [⟨"Dog", [⟨"name", .primitive .string, false⟩], .ofList [], ["Pet", "Chip"]⟩,
      ⟨"Pet", [⟨"tags", .list (.reference "Chip") true, true⟩], .ofList ["tags"], ["Animal"]⟩,
      ⟨"Chip", [⟨"id", .primitive .string, false⟩, ⟨"name", .primitive .uuid, true⟩],
        .ofList ["name"], []⟩,
      ⟨"Animal", [⟨"id", .primitive .int64, true⟩], .ofList ["id"], []⟩]

/-- A workspace with the document of the models. -/
def desk : FileStore :=
  FileStore.put ⟨"desk", .workspace, ∅, .empty, .empty⟩ "in.json" kennel.document.toUTF8

theorem flatten_output_fixed_kennel :
    ∃ flat first second,
      ModelGraph.flattenText kennel.document = .ok flat ∧
        ModelGraph.flattenText flat.document = .ok flat ∧
        desk.perform none
            (.run 0 (.flatten "in.json" (some "out.json") true (some "vapor") (some "Kennel"))) =
          (0, first) ∧
        first.read "out.json" = .ok flat.document.toUTF8 ∧
        first.perform none (.run 2 (.flatten "out.json" none true none none)) = (0, second) ∧
        second.unremarked = (first.addResult (flat.document ++ "\n").toUTF8).unremarked := by
  have input : FilePath.PlainName "in.json" := by
    constructor <;> decide
  have output : FilePath.PlainName "out.json" := by
    constructor <;> decide
  have loaded : ModelGraph.load kennel.document = .ok kennel :=
    ModelGraph.load_document_of_shallow (by decide) (by decide)
  have held : desk.read "in.json" = .ok kennel.document.toUTF8 :=
    FileStore.read_put_of_plainName input rfl _
  have found : desk.graphAt "in.json" = .ok kennel :=
    (FileStore.graphAt_of_read held).trans loaded
  have flattens : kennel.flatten.isOk = true := by
    decide +kernel
  have checked : kennel.checkIf true = .ok () := by
    decide +kernel
  have accepted :
      ∃ settings, Settings.ofChoices ⟨some "vapor", some "Kennel", none⟩ = .ok settings :=
    Settings.exists_ofChoices_iff.mpr (by decide +kernel)
  rcases exists_of_isOk flattens with ⟨flattening, done⟩
  rcases accepted with ⟨settings, chosen⟩
  have written (document : String) :
      desk.putOut (some "out.json") document = .ok (desk.put "out.json" document.toUTF8) :=
    FileStore.write_of_plainName output rfl document.toUTF8
  rcases exists_perform_of_putOut none 0 chosen found checked done (written _) with
    ⟨first, ended, _⟩
  rcases flatten_output_fixed with ⟨fixed, repeated⟩
  rcases repeated _ _ _ _ _ _ _ _ _ ended with
    ⟨text, flat, stored, textFound, flattened, delivered, same, _, again⟩
  have sameText : text = kennel.document :=
    Except.ok.inj (textFound.symm.trans (FileStore.textAt_of_read held))
  have sameStore : stored = desk.put "out.json" flat.document.toUTF8 :=
    Except.ok.inj (delivered.symm.trans (written flat.document))
  subst sameText sameStore
  have kept : first.read "out.json" = .ok flat.document.toUTF8 := by
    rw [FileStore.read_eq_of_unremarked_eq same]
    exact FileStore.read_put_of_plainName output rfl _
  rcases again none 2 "out.json" none none none first _ kept (.inl rfl) rfl with
    ⟨second, endedAgain, sameAgain⟩
  exact ⟨flat, first, second, flattened, fixed _ _ flattened, ended, kept, endedAgain, sameAgain⟩

end ModelLineage
