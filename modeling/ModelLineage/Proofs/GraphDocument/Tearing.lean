import ModelLineage.Proofs.GraphDocument.Members
import ModelLineage.Proofs.GraphDocument.RoundTrip
import ModelLineage.Proofs.Json.TornTrees

/-!
# Torn documents

A document that was cut off is never loaded: whoever reads a tree goes through the
torn one in the same order, finds there all that it has read before, and then meets
the end of the text.  A missing field or a wrong number of items is reported only
after the end of its container, so that it does not come before this.
-/

namespace ModelLineage

open Json (Tree Spelling Ending TornItems TornMembers)

/-- A reader that meets the end of the text in what is torn of a tree that it reads. -/
def MeetsEnd {Value : Type} (read : Tree → Except ReadError Value) : Prop :=
  ∀ ⦃tree part : Tree⦄ ⦃value : Value⦄,
    tree.Torn part → read tree = .ok value → read part = .error (.flaw .ended)

/-- A reader of the items of an array that meets the end of the text among torn items. -/
def MeetsEndInItems {Value : Type} (read : Ending → List Tree → Except ReadError Value) : Prop :=
  ∀ ⦃items parts : List Tree⦄ ⦃value : Value⦄,
    TornItems items parts → read .closed items = .ok value →
      read (.broken .ended) parts = .error (.flaw .ended)

section

variable {State Value Result : Type}

theorem FailsOnlyBy.flawed
    {flaw : Json.Flaw} {outcome : Except Json.Flaw Value}
    (fails : FailsOnlyBy flaw outcome) :
    FailsOnlyBy (.flaw flaw) (flawed outcome) := by
  cases outcome with
  | error other =>
      rw [fails other rfl]
      exact failsOnlyBy_error
  | ok value => exact failsOnlyBy_ok value

/-! ## Strings, truth values and values -/

theorem meetsEnd_stringOfTree : MeetsEnd stringOfTree := by
  intro tree part value torn read
  cases torn with
  | missing => rfl
  | text torn =>
      rw [stringOfTree, torn.text (of_flawed read)]
      rfl
  | array => cases read
  | object => cases read

theorem meetsEnd_kindOfTree : MeetsEnd kindOfTree := by
  intro tree part value torn read
  cases torn with
  | missing => rfl
  | text torn =>
      rcases exists_of_bind_eq_ok read with ⟨word, spelled, _⟩
      rw [kindOfTree, torn.text (of_flawed spelled)]
      rfl
  | array => cases read
  | object => cases read

theorem meetsEnd_booleanOfTree : MeetsEnd booleanOfTree := by
  intro tree part value torn read
  cases torn with
  | missing => rfl
  | text => cases read
  | array => cases read
  | object => cases read

theorem meetsEnd_value (outside : Nat) :
    MeetsEnd fun tree => flawed (tree.value outside) := by
  intro tree part value torn read
  show flawed (part.value outside) = _
  rw [Json.value_of_torn torn (of_flawed read)]
  rfl

theorem meetsEnd_pass : MeetsEnd fun tree => flawed tree.pass := by
  intro tree part value torn read
  show flawed part.pass = _
  rw [Json.pass_of_torn torn (of_flawed read)]
  rfl

/-! ## Members -/

theorem MeetsEnd.bind
    {read : Tree → Except ReadError Value}
    (meets : MeetsEnd read)
    (next : Value → Except ReadError Result) :
    MeetsEnd fun tree => read tree >>= next := by
  intro tree part result torn done
  rcases exists_of_bind_eq_ok done with ⟨value, first, _⟩
  show read part >>= next = _
  rw [meets torn first]
  rfl

theorem MeetsEnd.ite
    {read other : Tree → Except ReadError Value}
    (meets : MeetsEnd read)
    (meetsOther : MeetsEnd other)
    (condition : Prop) [Decidable condition] :
    MeetsEnd fun tree => if condition then read tree else other tree := by
  by_cases holds : condition
  · simpa only [if_pos holds] using meets
  · simpa only [if_neg holds] using meetsOther

theorem meetsEnd_readOnce
    {read : Tree → Except ReadError Value}
    (meets : MeetsEnd read)
    (known : Option Value)
    (key : String)
    (put : Value → State) :
    MeetsEnd fun tree => readOnce known key (read tree) put := by
  apply MeetsEnd.ite _ (meets.bind _)
  intro tree part value torn repeated
  cases repeated

/-- Where every part meets the end, so does taking up a member. -/
theorem meetsEnd_takeUpMember
    {slots : List (MemberSlot State)} {outside : Nat}
    (each : ∀ slot ∈ slots, MeetsEnd (slot.read outside))
    (state : State)
    (key : String) :
    MeetsEnd (takeUpMember slots outside state key) := by
  induction slots with
  | nil => exact meetsEnd_pass.bind _
  | cons slot slots ih =>
      have later := ih fun other listed => each other (List.mem_cons_of_mem _ listed)
      exact (meetsEnd_readOnce (each slot List.mem_cons_self) (slot.part state) key
        (slot.put state)).ite later _

theorem failsOnlyBy_readMembers
    {takeUp : State → String → Tree → Except ReadError State}
    (meets : ∀ state key, MeetsEnd (takeUp state key))
    {members parts : List (Spelling × Tree)} {state result : State}
    (torn : TornMembers members parts)
    (read : readMembers takeUp state members = .ok result) :
    FailsOnlyBy (.flaw .ended) (readMembers takeUp state parts) := by
  induction members generalizing parts state with
  | nil =>
      cases torn
      exact failsOnlyBy_ok state
  | cons member members ih =>
      rcases member with ⟨spelling, tree⟩
      rcases exists_of_bind_eq_ok read with ⟨key, keyRead, later⟩
      rcases exists_of_bind_eq_ok later with ⟨state', taken, rest⟩
      cases torn with
      | stop => exact failsOnlyBy_ok state
      | key torn =>
          rw [readMembers, torn.text (of_flawed keyRead)]
          exact failsOnlyBy_error
      | inside torn =>
          rw [readMembers, keyRead, ok_bind, meets state key torn taken]
          exact failsOnlyBy_error
      | later torn =>
          rw [readMembers, keyRead, ok_bind, taken]
          exact ih torn rest

theorem failsOnlyBy_mapM
    {read : Tree → Except ReadError Value}
    (meets : MeetsEnd read)
    {items parts : List Tree} {values : List Value}
    (torn : TornItems items parts)
    (done : items.mapM read = .ok values) :
    FailsOnlyBy (.flaw .ended) (parts.mapM read) := by
  induction items generalizing parts values with
  | nil =>
      cases torn
      exact failsOnlyBy_ok []
  | cons item items ih =>
      rw [List.mapM_cons] at done
      rcases exists_of_bind_eq_ok done with ⟨value, first, later⟩
      rcases exists_of_bind_eq_ok later with ⟨others, rest, _⟩
      cases torn with
      | stop => exact failsOnlyBy_ok []
      | inside torn =>
          rw [List.mapM_cons, meets torn first]
          exact failsOnlyBy_error
      | later torn =>
          rw [List.mapM_cons, first]
          exact (ih torn rest).bind fun _ _ => failsOnlyBy_ok _

/-! ## Items -/

/-- Read the next item, if there is one, and go on with those after it. -/
def readNext
    (atEnd : Ending → Except ReadError Result)
    (read : Tree → Except ReadError Value)
    (next : Value → Ending → List Tree → Except ReadError Result)
    (ending : Ending) :
    List Tree → Except ReadError Result
  | [] => atEnd ending
  | item :: items => do
    let value ← read item
    next value ending items

theorem meetsEndInItems_readNext
    {atEnd : Ending → Except ReadError Result}
    {read : Tree → Except ReadError Value}
    {next : Value → Ending → List Tree → Except ReadError Result}
    (meets : MeetsEnd read)
    (nothing : atEnd (.broken .ended) = .error (.flaw .ended))
    (later : ∀ value, MeetsEndInItems (next value)) :
    MeetsEndInItems (readNext atEnd read next) := by
  intro items parts result torn done
  cases torn with
  | stop => exact nothing
  | inside torn =>
      rcases exists_of_bind_eq_ok done with ⟨value, first, _⟩
      rw [readNext, meets torn first]
      rfl
  | later torn =>
      rcases exists_of_bind_eq_ok done with ⟨value, first, rest⟩
      rw [readNext, first]
      exact later value torn rest

theorem meetsEndInItems_endOfParts (value : Value) :
    MeetsEndInItems fun ending => endOfParts ending value := by
  intro items parts value' torn done
  cases items with
  | nil =>
      cases torn
      rfl
  | cons item items => cases done

/-- A list ends with its bracket, so that its torn items do not make a list. -/
theorem meetsEnd_listOfTree
    {read : Nat → Tree → Except ReadError Value}
    (meets : ∀ outside, MeetsEnd (read outside))
    (outside : Nat) :
    MeetsEnd (listOfTree read outside) := by
  intro tree part values torn done
  cases torn with
  | missing => rfl
  | text => cases done
  | array torn =>
      rcases exists_of_bind_eq_ok done with ⟨_, opened, later⟩
      rcases exists_of_bind_eq_ok later with ⟨values, itemsRead, _⟩
      have contents := failsOnlyBy_mapM (meets (outside + 1)) torn itemsRead
      rw [listOfTree, opened]
      exact contents.bind_eq_error fun _ => rfl
  | object => cases done

theorem meetsEnd_stringsOfTree (outside : Nat) : MeetsEnd (stringsOfTree outside) :=
  meetsEnd_listOfTree (fun _ => meetsEnd_stringOfTree) outside

end

/-! ## Types and fields -/

theorem meetsEnd_takeUpTypePart
    (outside : Nat)
    (state : Option Kind × List (String × Json))
    (key : String) :
    MeetsEnd (takeUpTypePart outside state key) := by
  have kind := meetsEnd_readOnce meetsEnd_kindOfTree state.1 "kind" fun kind =>
    (some kind, state.2)
  have other := (meetsEnd_value outside).bind fun value =>
    (.ok (state.1, (key, value) :: state.2) : Except ReadError _)
  exact kind.ite other _

theorem meetsEnd_typeOfTree (outside : Nat) : MeetsEnd (typeOfTree outside) := by
  intro tree part type torn done
  cases torn with
  | missing => rfl
  | text => cases done
  | object torn =>
      rcases exists_of_bind_eq_ok done with ⟨_, opened, later⟩
      rcases exists_of_bind_eq_ok later with ⟨result, read, _⟩
      rw [readTypeMembers_eq] at read
      rcases exists_of_bind_eq_ok read with ⟨state, read, _⟩
      have contents := failsOnlyBy_readMembers (meetsEnd_takeUpTypePart (outside + 1)) torn read
      rw [typeOfTree, opened, ok_bind, readTypeMembers_eq, bind_assoc]
      exact contents.bind_eq_error fun _ => rfl
  | @array items parts torn =>
      cases torn with
      | stop =>
          have opened : openInside outside = .ok () := by
            cases items <;> exact (exists_of_bind_eq_ok done).choose_spec.1
          rw [typeOfTree, opened]
          rfl
      | inside torn =>
          rcases exists_of_bind_eq_ok done with ⟨_, opened, later⟩
          rcases exists_of_bind_eq_ok later with ⟨kind, read, _⟩
          rw [typeOfTree, opened, ok_bind, meetsEnd_kindOfTree torn read]
          rfl
      | later torn =>
          rcases exists_of_bind_eq_ok done with ⟨_, opened, later⟩
          rcases exists_of_bind_eq_ok later with ⟨kind, kindRead, later⟩
          rcases exists_of_bind_eq_ok later with ⟨values, read, _⟩
          have contents := (Json.failsOnlyBy_valuesOfItems torn (of_flawed read)).flawed
          rw [typeOfTree, opened, ok_bind, kindRead, ok_bind]
          exact contents.bind_eq_error fun _ => rfl

theorem meetsEnd_fieldSlots (outside : Nat) :
    ∀ slot ∈ FieldParts.slots, MeetsEnd (slot.read outside) := by
  intro slot listed
  rcases FieldParts.mem_slots_iff.mp listed with rfl | rfl | rfl
  · exact meetsEnd_stringOfTree
  · exact meetsEnd_typeOfTree outside
  · exact meetsEnd_booleanOfTree

theorem readFieldItems_eq (outside : Nat) (ending : Ending) (items : List Tree) :
    readFieldItems outside ending items =
      readNext
        (fun ending => do
          flawed (ending.after ())
          throw (.mismatch (.wrongLength 0 .fieldOfThree)))
        stringOfTree
        (fun name =>
          readNext
            (fun ending => do
              flawed (ending.after ())
              throw (.mismatch (.wrongLength 1 .fieldOfThree)))
            (typeOfTree outside)
            (fun type =>
              readNext
                (fun ending => flawed (ending.after ⟨name, type, false⟩))
                booleanOfTree
                (fun required ending => endOfParts ending ⟨name, type, required⟩)))
        ending items := by
  match items with
  | [] => rfl
  | [_] => rfl
  | [_, _] => rfl
  | _ :: _ :: _ :: _ => rfl

theorem meetsEndInItems_readFieldItems (outside : Nat) :
    MeetsEndInItems (readFieldItems outside) := by
  intro items parts field torn done
  rw [readFieldItems_eq] at done ⊢
  refine meetsEndInItems_readNext meetsEnd_stringOfTree rfl (fun name => ?_) torn done
  refine meetsEndInItems_readNext (meetsEnd_typeOfTree outside) rfl (fun type => ?_)
  refine meetsEndInItems_readNext meetsEnd_booleanOfTree rfl (fun required => ?_)
  exact meetsEndInItems_endOfParts _

theorem meetsEnd_fieldOfTree (outside : Nat) : MeetsEnd (fieldOfTree outside) := by
  intro tree part field torn done
  cases torn with
  | missing => rfl
  | text => cases done
  | object torn =>
      rcases exists_of_bind_eq_ok done with ⟨_, opened, later⟩
      rcases exists_of_bind_eq_ok later with ⟨parts, read, _⟩
      rw [readFieldMembers_eq] at read
      have meets := meetsEnd_takeUpMember (meetsEnd_fieldSlots (outside + 1))
      have contents := failsOnlyBy_readMembers meets torn read
      rw [fieldOfTree, opened, ok_bind, readFieldMembers_eq]
      exact contents.bind_eq_error fun _ => rfl
  | array torn =>
      rcases exists_of_bind_eq_ok done with ⟨_, opened, read⟩
      rw [fieldOfTree, opened, ok_bind]
      exact meetsEndInItems_readFieldItems (outside + 1) torn read

/-! ## Models -/

theorem meetsEnd_modelSlots (outside : Nat) :
    ∀ slot ∈ ModelParts.slots, MeetsEnd (slot.read outside) := by
  intro slot listed
  rcases ModelParts.mem_slots_iff.mp listed with rfl | rfl | rfl | rfl
  · exact meetsEnd_stringOfTree
  · exact meetsEnd_listOfTree meetsEnd_fieldOfTree outside
  · exact meetsEnd_stringsOfTree outside
  · exact meetsEnd_stringsOfTree outside

theorem readModelItems_eq (outside : Nat) (ending : Ending) (items : List Tree) :
    readModelItems outside ending items =
      readNext
        (fun ending => flawed (ending.after .none))
        stringOfTree
        (fun name =>
          readNext
            (fun ending => flawed (ending.after ⟨some name, none, none, none⟩))
            (listOfTree fieldOfTree outside)
            (fun fields =>
              readNext
                (fun ending => flawed (ending.after ⟨some name, some fields, none, none⟩))
                (stringsOfTree outside)
                (fun required =>
                  readNext
                    (fun ending =>
                      flawed (ending.after ⟨some name, some fields, some required, none⟩))
                    (stringsOfTree outside)
                    (fun ancestors ending =>
                      endOfParts ending
                        ⟨some name, some fields, some required, some ancestors⟩))))
        ending items := by
  match items with
  | [] => rfl
  | [_] => rfl
  | [_, _] => rfl
  | [_, _, _] => rfl
  | _ :: _ :: _ :: _ :: _ => rfl

theorem meetsEndInItems_readModelItems (outside : Nat) :
    MeetsEndInItems (readModelItems outside) := by
  intro items parts model torn done
  rw [readModelItems_eq] at done ⊢
  refine meetsEndInItems_readNext meetsEnd_stringOfTree rfl (fun name => ?_) torn done
  refine meetsEndInItems_readNext (meetsEnd_listOfTree meetsEnd_fieldOfTree outside) rfl
    (fun fields => ?_)
  refine meetsEndInItems_readNext (meetsEnd_stringsOfTree outside) rfl (fun required => ?_)
  refine meetsEndInItems_readNext (meetsEnd_stringsOfTree outside) rfl (fun ancestors => ?_)
  exact meetsEndInItems_endOfParts _

theorem meetsEnd_modelOfTree (outside : Nat) : MeetsEnd (modelOfTree outside) := by
  intro tree part model torn done
  cases torn with
  | missing => rfl
  | text => cases done
  | object torn =>
      rcases exists_of_bind_eq_ok done with ⟨_, opened, later⟩
      rcases exists_of_bind_eq_ok later with ⟨parts, read, _⟩
      rw [readModelMembers_eq] at read
      have meets := meetsEnd_takeUpMember (meetsEnd_modelSlots (outside + 1))
      have contents := failsOnlyBy_readMembers meets torn read
      rw [modelOfTree, opened, ok_bind, readModelMembers_eq]
      exact contents.bind_eq_error fun _ => rfl
  | array torn =>
      rcases exists_of_bind_eq_ok done with ⟨_, opened, later⟩
      rcases exists_of_bind_eq_ok later with ⟨parts, read, _⟩
      rw [modelOfTree, opened, ok_bind, meetsEndInItems_readModelItems (outside + 1) torn read]
      rfl

/-! ## Graphs -/

theorem meetsEnd_takeUpEntry
    (outside : Nat)
    (entries : List (String × Model))
    (key : String) :
    MeetsEnd (takeUpEntry outside entries key) :=
  (meetsEnd_modelOfTree outside).bind fun model => .ok ((key, model) :: entries)

theorem meetsEnd_graphOfTree (outside : Nat) : MeetsEnd (graphOfTree outside) := by
  intro tree part graph torn done
  cases torn with
  | missing => rfl
  | text => cases done
  | array => cases done
  | object torn =>
      rcases exists_of_bind_eq_ok done with ⟨_, opened, later⟩
      rcases exists_of_bind_eq_ok later with ⟨entries, read, _⟩
      rw [mapM_readEntry_eq] at read
      rcases exists_of_bind_eq_ok read with ⟨found, read, _⟩
      have contents := failsOnlyBy_readMembers (meetsEnd_takeUpEntry (outside + 1)) torn read
      rw [graphOfTree, opened, ok_bind, mapM_readEntry_eq, bind_assoc]
      exact contents.bind_eq_error fun _ => rfl

/-! ## Documents -/

namespace ModelGraph

variable {graph : ModelGraph}

/--
Whatever text a graph was loaded from, unless it has numbers in it: cut off before its
last visible character it is not loaded.
-/
theorem load_of_cut
    {text cut : String} {lost : List Char} {tree : Tree} {value : Json}
    (loaded : load text = .ok graph)
    (spelled : tree.Spells value)
    (numberless : value.Numberless)
    (lexed : Json.Lexed text.toList tree.tokens)
    (split : text.toList = cut.toList ++ lost)
    (visible : ∃ char ∈ lost, Json.isBlank char = false) :
    load cut = .error (.read (.flaw .ended)) := by
  rcases exists_of_bind_eq_ok loaded with ⟨source, textRead, _⟩
  rcases exists_of_bind_eq_ok (ok_of_mapError_eq_ok textRead) with ⟨found, treeRead, _⟩
  rw [Json.ofText_of_lexed lexed spelled] at treeRead
  have torn := Json.torn_ofText spelled numberless lexed split visible
  rw [String.ofList_toList] at torn
  rw [load, ofText, readWhole, meetsEnd_graphOfTree 0 torn treeRead]
  rfl

theorem getLast?_document (graph : ModelGraph) :
    graph.document.toList.getLast? = some '}' := by
  rcases Json.exists_spreadText_object_eq
    (graph.entries.map fun entry => (entry.1, entry.2.toJson)) with ⟨before, whole⟩
  rw [document, toJson, whole, List.getLast?_concat]

/--
The document of a sound graph without types of more than 123 levels is not loaded if it
lacks its last characters, as many as these may be: the text has ended inside a value.
-/
theorem load_torn_document
    {cut : String}
    (sound : graph.Sound)
    (shallow : graph.Shallow)
    (within : cut.toList <+: graph.document.toList)
    (torn : cut ≠ graph.document) :
    load cut = .error (.read (.flaw .ended)) := by
  rcases within with ⟨lost, split⟩
  have some : lost ≠ [] := by
    rintro rfl
    rw [List.append_nil] at split
    exact torn (String.toList_inj.mp split)
  have brace : '}' ∈ lost := by
    have last := graph.getLast?_document
    rw [← split, List.getLast?_append_of_ne_nil _ some] at last
    exact List.mem_of_getLast? last
  have lexed : Json.Lexed graph.document.toList graph.toJson.tree.tokens := by
    have nothing : ∀ char ∈ "".toList, Json.isBlank char = true := by simp
    have written := Json.lexed_spreadText graph.numberless_toJson nothing
    rwa [String.append_empty] at written
  exact load_of_cut (load_document_of_shallow sound shallow)
    (Json.spells_tree graph.numberless_toJson) graph.numberless_toJson lexed split.symm
    ⟨'}', brace, rfl⟩

theorem load_torn_document_within_escape :
    load "\x7b\n  \"\\\"\\n\\u0" = .error (.read (.flaw .ended)) := by
  apply load_torn_document (sound_nested 0)
  · decide
  · have name : Json.quoted "\"\n\x01" =
        ['"', '\\', '"', '\\', 'n', '\\', 'u', '0'] ++ ['0', '0', '1', '"'] := by
      decide
    have begins : ∃ rest, (nested 0).document.toList =
        ['{', '\n', ' ', ' '] ++ (Json.quoted "\"\n\x01" ++ rest) := by
      rw [document, Json.spreadText, String.toList_ofList]
      exact ⟨_, rfl⟩
    rcases begins with ⟨rest, begins⟩
    rw [begins, name, List.append_assoc, ← List.append_assoc]
    exact List.prefix_append _ _
  · intro same
    have last := (nested 0).getLast?_document
    rw [← same] at last
    revert last
    decide

end ModelGraph

end ModelLineage
