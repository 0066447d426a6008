import ModelLineage.Proofs.Names.Lookup
import ModelLineage.Proofs.Outcomes
import ModelLineage.Proofs.Storage.Paths
import ModelLineage.Storage.FileStore

/-!
# Writing to a store and reading from it

A path that can be written to leads through directories to a name.  What happens
then depends on what the name stands for: a device takes the content, or a place
holds it afterwards.  What a place holds is read back under the same path.

What was remarked does not matter to a store.  It is read from and written to in
the same way without it.
-/

namespace ModelLineage

namespace FileStore

variable
    {store other written : FileStore}
    {text name : String}
    {directory : Directory}
    {content : ByteArray}

/-! ## Where a path ends -/

theorem walk_append
    (store : FileStore)
    (spot : Spot)
    (names further : List String) :
    store.walk spot (names ++ further) = store.walk spot names >>= (store.walk · further) := by
  induction names generalizing spot with
  | nil => rfl
  | cons name names ih =>
      cases spot with
      | directory directory =>
          rw [List.cons_append, walk, walk, bind_assoc]
          congr 1
          funext next
          exact ih next
      | file place => rfl
      | device device => rfl

/-- A path leads through directories to a name in the last of them. -/
structure EndsAt
    (store : FileStore)
    (text : String)
    (directory : Directory)
    (name : String) : Prop where
  walked : ∃ path outer,
    FilePath.ofText text = .ok path ∧ path.names = outer ++ [name] ∧
      path.wantsDirectory = false ∧
      store.walk (.directory (store.start path)) outer = .ok (.directory directory)

namespace EndsAt

theorem write_eq
    (ends : store.EndsAt text directory name)
    (content : ByteArray) :
    store.write text content = store.writeInto directory name content := by
  rcases ends with ⟨path, outer, spelled, names, noDirectory, walked⟩
  rw [write, spelled, ok_bind, names, List.getLast?_concat, List.dropLast_concat]
  simp only [walked, ok_bind, noDirectory]
  rfl

/-- Where the program runs in the workspace, a plain name ends there. -/
theorem of_plainName
    (plain : FilePath.PlainName name)
    (inside : store.current = .workspace) :
    store.EndsAt name .workspace name := by
  refine ⟨⟨false, [name], false⟩, [], plain.ofText_eq, rfl, rfl, ?_⟩
  rw [start, inside]
  rfl

/-- The content of the file that a path ends at. -/
theorem read_eq
    {place : String}
    (ends : store.EndsAt text directory name)
    (entered : store.enter directory name = .ok (.file place)) :
    store.read text = .ok ((store.files.get? place).getD .empty) := by
  rcases ends with ⟨path, outer, spelled, names, noDirectory, walked⟩
  have reached : store.walk (.directory (store.start path)) path.names = .ok (.file place) := by
    rw [names, walk_append, walked]
    show store.walk (.directory directory) [name] = _
    rw [walk, entered]
    rfl
  rw [read, spelled, ok_bind, reached, ok_bind, noDirectory]
  rfl

end EndsAt

theorem exists_endsAt_of_write
    (done : store.write text content = .ok written) :
    ∃ directory name, store.EndsAt text directory name ∧
      store.writeInto directory name content = .ok written := by
  rw [write] at done
  rcases exists_of_bind_eq_ok done with ⟨path, spelled, found⟩
  split at found
  · cases found
  · rename_i name last
    rcases exists_of_bind_eq_ok found with ⟨spot, walked, entered⟩
    split at entered
    · rename_i directory
      split at entered
      · cases entered
      · rename_i noDirectory
        refine ⟨directory, name, ⟨path, path.names.dropLast, spelled, ?_, ?_, walked⟩, entered⟩
        · exact (List.dropLast_append_getLast? name last).symm
        · exact Bool.eq_false_iff.mpr noDirectory
    · cases entered

/-! ## Files -/

/-- A plain name in the workspace stands for a file or for nothing. -/
theorem enter_workspace
    (store : FileStore)
    (plain : FilePath.PlainName name) :
    store.enter .workspace name =
      if store.files.contains name then .ok (.file name) else .error .missing := by
  rw [enter, if_neg plain.notHere, if_neg plain.notUp, if_neg (Nat.not_lt.mpr plain.short)]
  simp [child?, Device.find?, Directory.child?, Directory.temporary, Directory.streams,
    Directory.lead]

/-- Putting something at a place leaves the directories where they are. -/
theorem enter_put_of_directory
    {inner : Directory} {place : String}
    (entered : store.enter directory name = .ok (.directory inner)) :
    (store.put place content).enter directory name = .ok (.directory inner) := by
  -- Only a name that stands for no directory and no device is looked up among the files.
  grind [enter, child?, put]

theorem walk_put_of_directory
    {inner : Directory} {names : List String} {place : String}
    (walked : store.walk (.directory directory) names = .ok (.directory inner)) :
    (store.put place content).walk (.directory directory) names = .ok (.directory inner) := by
  induction names generalizing directory with
  | nil => exact walked
  | cons name names ih =>
      rw [walk] at walked ⊢
      rcases exists_of_bind_eq_ok walked with ⟨next, entered, rest⟩
      -- From a file or a device no walk comes to a directory any more.
      cases next with
      | directory child =>
          rw [enter_put_of_directory entered]
          exact ih rest
      | file place => cases names <;> cases rest
      | device device => cases names <;> cases rest

theorem EndsAt.put
    (ends : store.EndsAt text directory name)
    (place : String)
    (content : ByteArray) :
    (store.put place content).EndsAt text directory name := by
  rcases ends with ⟨path, outer, spelled, names, noDirectory, walked⟩
  exact ⟨path, outer, spelled, names, noDirectory, walk_put_of_directory walked⟩

/-- A write that succeeds puts its content at a place, or a device takes it. -/
theorem writeInto_cases
    (done : store.writeInto directory name content = .ok written) :
    (∃ place, written = store.put place content ∧
        (store.put place content).enter directory name = .ok (.file place)) ∨
      ∃ device, store.enter directory name = .ok (.device device) ∧
        store.writeTo content device = .ok written := by
  have found : ∀ place, (store.put place content).files.contains place = true := by
    intro place
    rw [FileStore.put, NameMap.contains, NameMap.get?_insert, if_pos rfl]
    rfl
  rw [writeInto] at done
  split at done
  · cases done
  · rename_i device entered
    exact .inr ⟨device, entered, done⟩
  · rename_i place entered
    cases done
    refine .inl ⟨place, rfl, ?_⟩
    grind [enter, child?, FileStore.put]
  · rename_i missing
    split at done
    · cases done
      refine .inl ⟨_, rfl, ?_⟩
      grind [enter, child?, FileStore.put]
    · cases done
  · cases done

/-- What was put where a path leads is read back under the path. -/
theorem EndsAt.read_put
    {place : String}
    (ends : store.EndsAt text directory name)
    (entered : (store.put place content).enter directory name = .ok (.file place)) :
    (store.put place content).read text = .ok content := by
  rw [(ends.put place content).read_eq entered, FileStore.put, NameMap.get?_insert, if_pos rfl]
  rfl

/-- What was written is read back, unless a device has taken it. -/
theorem EndsAt.read_of_write
    (ends : store.EndsAt text directory name)
    (noDevice : ∀ device, store.enter directory name ≠ .ok (.device device))
    (done : store.write text content = .ok written) :
    written.read text = .ok content := by
  rw [ends.write_eq] at done
  rcases writeInto_cases done with ⟨place, rfl, entered⟩ | ⟨device, entered, _⟩
  · exact ends.read_put entered
  · exact absurd entered (noDevice device)

/-- In the workspace, a file of a plain name can be written. -/
theorem write_of_plainName
    (plain : FilePath.PlainName name)
    (inside : store.current = .workspace)
    (content : ByteArray) :
    store.write name content = .ok (store.put name content) := by
  have ends := EndsAt.of_plainName plain inside
  have spelled : Directory.workspace.lead ++ name = name := String.empty_append
  rw [ends.write_eq, writeInto, store.enter_workspace plain]
  cases store.files.contains name with
  | true => rfl
  | false => rw [← spelled]; rfl

theorem read_put_of_plainName
    (plain : FilePath.PlainName name)
    (inside : store.current = .workspace)
    (content : ByteArray) :
    (store.put name content).read name = .ok content := by
  apply (EndsAt.of_plainName plain inside).read_of_write _ (write_of_plainName plain inside content)
  intro device
  rw [store.enter_workspace plain]
  cases store.files.contains name <;> simp

/-! ## Remarks -/

/-- The store without what was remarked. -/
def unremarked (store : FileStore) : FileStore :=
  { store with remarks := .empty }

@[simp]
theorem unremarked_addRemark (store : FileStore) (content : ByteArray) :
    (store.addRemark content).unremarked = store.unremarked :=
  rfl

theorem walk_unremarked (store : FileStore) (spot : Spot) (names : List String) :
    store.unremarked.walk spot names = store.walk spot names := by
  induction names generalizing spot with
  | nil => rfl
  | cons name names ih =>
      cases spot with
      | directory directory =>
          have entered : store.unremarked.enter directory name = store.enter directory name := rfl
          rw [walk, walk, entered]
          congr 1
          funext next
          exact ih next
      | file place => rfl
      | device device => rfl

/-- Stores that differ in their remarks only are read alike. -/
theorem read_eq_of_unremarked_eq
    (same : other.unremarked = store.unremarked)
    (text : String) :
    other.read text = store.read text := by
  have unseen : ∀ store : FileStore, store.unremarked.read text = store.read text := by
    intro store
    rw [read, read]
    simp only [walk_unremarked]
    rfl
  rw [← unseen other, same, unseen]

theorem EndsAt.of_unremarked_eq
    (same : other.unremarked = store.unremarked)
    (ends : store.EndsAt text directory name) :
    other.EndsAt text directory name := by
  rcases ends with ⟨path, outer, spelled, names, noDirectory, walked⟩
  refine ⟨path, outer, spelled, names, noDirectory, ?_⟩
  have started : other.start path = store.start path := by
    show other.unremarked.start path = store.unremarked.start path
    rw [same]
  rw [← walk_unremarked, same, walk_unremarked, started]
  exact walked

theorem writeInto_unremarked
    (store : FileStore)
    (directory : Directory)
    (name : String)
    (content : ByteArray) :
    (store.unremarked.writeInto directory name content).map unremarked =
      (store.writeInto directory name content).map unremarked := by
  have entered : store.unremarked.enter directory name = store.enter directory name := rfl
  rw [writeInto, writeInto, entered]
  cases store.enter directory name with
  | ok spot =>
      cases spot with
      | directory inner => rfl
      | file place => rfl
      | device device => cases device <;> rfl
  | error fault =>
      cases fault with
      | missing => cases directory.takesFiles <;> rfl
      | _ => rfl

/-- Stores that differ in their remarks only are written to alike. -/
theorem exists_write_of_unremarked_eq
    (same : other.unremarked = store.unremarked)
    (done : store.write text content = .ok written) :
    ∃ written', other.write text content = .ok written' ∧
      written'.unremarked = written.unremarked := by
  rcases exists_endsAt_of_write done with ⟨directory, name, ends, entered⟩
  rw [(ends.of_unremarked_eq same).write_eq]
  -- The written stores need not be equal: the content itself may have gone to the remarks.
  have alike := writeInto_unremarked other directory name content
  rw [same, writeInto_unremarked, entered] at alike
  cases found : other.writeInto directory name content with
  | error fault =>
      rw [found] at alike
      cases alike
  | ok written' =>
      rw [found] at alike
      exact ⟨written', rfl, (Except.ok.inj alike).symm⟩

/-! ## What a write changes -/

end FileStore

end ModelLineage
