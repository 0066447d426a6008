import ModelLineage.Names.NameMap
import ModelLineage.Storage.FilePath
import ModelLineage.Storage.Surroundings

/-!
# File stores

A file store holds the files that are known, each under its place as seen from
the workspace, and what went to the outputs.  Reading and writing are functions
on it.  Of the files of the system only the beginnings are known.
-/

namespace ModelLineage

/-- The devices that behave like files. -/
inductive Device where
  /-- It takes whatever is written, keeps nothing of it, and is empty when it is read. -/
  | null
  /-- It refuses what is written. -/
  | full
  /-- It cannot be opened, since there is no terminal. -/
  | terminal
  /-- What is written is a result. -/
  | results
  /-- What is written is a remark. -/
  | remarks
  deriving DecidableEq, Inhabited

namespace Device

/-- The devices by their names; there is no input, so it is as empty as the null device. -/
def named : List (String × Device) :=
  [("null", null), ("zero", null), ("random", null), ("urandom", null), ("full", full),
    ("tty", terminal), ("stdin", null), ("stdout", results), ("stderr", remarks)]

/-- The devices by the numbers that the program knows them by. -/
def numbered : List (String × Device) :=
  [("0", null), ("1", results), ("2", remarks)]

/-- The device that a name stands for in a directory. -/
def find? (directory : Directory) (name : String) : Option Device :=
  if directory = .below ["dev"] then named.lookup name
  else if directory = .streams then numbered.lookup name
  else none

end Device

/-- The known files by their places, and what went to the outputs. -/
structure FileStore where
  /-- The name of the workspace among the temporary files. -/
  workspaceName : String
  /-- Where the program runs. -/
  current : Directory
  files : NameMap ByteArray
  results : ByteArray
  remarks : ByteArray

/-- What a path leads to. -/
inductive Spot where
  | directory (directory : Directory)
  | file (place : String)
  | device (device : Device)
  deriving DecidableEq, Inhabited

namespace FileStore

/-- The texts that are found everywhere, with how they begin; none is a document. -/
def commonTexts : List (String × String) :=
  [("/etc/fstab", "#"), ("/etc/group", "root:x:0:"), ("/etc/hostname", "localhost"),
    ("/etc/hosts", "127.0.0.1"), ("/etc/os-release", "NAME="), ("/etc/passwd", "root:x:0:0:"),
    ("/etc/profile", "#"), ("/etc/resolv.conf", "nameserver"), ("/etc/shells", "#"),
    ("/proc/cpuinfo", "processor"), ("/proc/meminfo", "MemTotal:"), ("/proc/mounts", "overlay"),
    ("/proc/self/cmdline", "/"), ("/proc/self/environ", "PATH="), ("/proc/self/maps", "1-2"),
    ("/proc/self/stat", "1 ("), ("/proc/self/status", "Name:"), ("/proc/stat", "cpu"),
    ("/proc/uptime", "1.00 1.00"), ("/proc/version", "Linux")]

/-- The places of the programs that are found everywhere. -/
def commonPrograms : List String :=
  ["/bin/cat", "/bin/ls", "/bin/sh", "/proc/self/exe", "/usr/bin/cat", "/usr/bin/env",
    "/usr/bin/ls", "/usr/bin/sh"]

/-- How a program begins: not as a text. -/
def programStart : ByteArray := ⟨#[0x7f, 0x45, 0x4c, 0x46, 0xff]⟩

/-- The files that are found everywhere. -/
def commonFiles : List (String × ByteArray) :=
  (commonTexts.map fun (place, beginning) => (place, beginning.toUTF8)) ++
    commonPrograms.map fun place => (place, programStart)

/-- The store of some files beside those that are found everywhere. -/
def ofFiles
    (workspaceName : String)
    (current : Directory)
    (files : List (String × ByteArray)) : FileStore :=
  ⟨workspaceName, current, .ofList (commonFiles ++ files), .empty, .empty⟩

/-- A path in full: one that does not start at the root leads on from the workspace. -/
def fullPath (store : FileStore) (path : String) : String :=
  if path.startsWith "/" then path
  else Directory.temporary.lead ++ store.workspaceName ++ "/" ++ path

/-- Where a path starts. -/
def start (store : FileStore) (path : FilePath) : Directory :=
  if path.fromRoot then .root else store.current

/-- The directory that a name stands for in a directory. -/
def child? (store : FileStore) (directory : Directory) (name : String) : Option Directory :=
  if directory = .temporary ∧ name = store.workspaceName then some .workspace
  else if directory = .below ["proc", "self"] ∧ name = "cwd" then some store.current
  else directory.child? name

/-- What a name stands for in a directory. -/
def enter (store : FileStore) (directory : Directory) (name : String) :
    Except StorageFault Spot :=
  if name = "." then .ok (.directory directory)
  else if name = ".." then .ok (.directory directory.parent)
  else if FilePath.nameLimit < name.utf8ByteSize then .error .nameTooLong
  else
    let place := directory.lead ++ name
    match store.child? directory name, Device.find? directory name with
    | some child, _ => .ok (.directory child)
    | none, some device => .ok (.device device)
    | none, none => if store.files.contains place then .ok (.file place) else .error .missing

/-- Walk on from a spot by one name after the other. -/
def walk (store : FileStore) (spot : Spot) : List String → Except StorageFault Spot
  | [] => .ok spot
  | name :: names =>
    match spot with
    | .directory directory => do
      let next ← store.enter directory name
      store.walk next names
    | _ => .error .notDirectory

/-- The content of a file; the devices are empty. -/
def read (store : FileStore) (text : String) : Except StorageFault ByteArray := do
  let path ← FilePath.ofText text
  match ← store.walk (.directory (store.start path)) path.names with
  | .directory _ => throw .directory
  | .device device =>
    if path.wantsDirectory then throw .notDirectory
    else if device = .terminal then throw .noDevice
    else return .empty
  | .file place =>
    if path.wantsDirectory then throw .notDirectory
    else return (store.files.get? place).getD .empty

/-- The store with a content at a place. -/
def put (store : FileStore) (place : String) (content : ByteArray) : FileStore :=
  { store with files := store.files.insert place content }

/-- The store with a content added to the results. -/
def addResult (store : FileStore) (content : ByteArray) : FileStore :=
  { store with results := store.results ++ content }

/-- The store with a content added to the remarks. -/
def addRemark (store : FileStore) (content : ByteArray) : FileStore :=
  { store with remarks := store.remarks ++ content }

/-- The store after a content is written to a device. -/
def writeTo (store : FileStore) (content : ByteArray) : Device → Except StorageFault FileStore
  | .null => .ok store
  | .full => .error .noSpace
  | .terminal => .error .noDevice
  | .results => .ok (store.addResult content)
  | .remarks => .ok (store.addRemark content)

/-- The store with a content put into what a name stands for in a directory. -/
def writeInto (store : FileStore) (directory : Directory) (name : String)
    (content : ByteArray) : Except StorageFault FileStore :=
  match store.enter directory name with
  | .ok (.directory _) => .error .directory
  | .ok (.device device) => store.writeTo content device
  | .ok (.file place) => .ok (store.put place content)
  | .error .missing =>
    if directory.takesFiles then .ok (store.put (directory.lead ++ name) content)
    else .error .missing
  | .error fault => .error fault

/--
The store with a content put into a file, which is made if there is none.  A path
that asks for a directory is refused before its last name is looked at.
-/
def write (store : FileStore) (text : String) (content : ByteArray) :
    Except StorageFault FileStore := do
  let path ← FilePath.ofText text
  match path.names.getLast? with
  | none => throw .directory
  | some name =>
    match ← store.walk (.directory (store.start path)) path.names.dropLast with
    | .directory directory =>
      if path.wantsDirectory then throw .directory
      else store.writeInto directory name content
    | _ => throw .notDirectory

/-- Reading, writing and the outputs as effects on a store. -/
def surroundings : Surroundings (StateM FileStore) where
  read path := do
    let store ← get
    return store.read path
  write path content := do
    let store ← get
    match store.write path content with
    | .ok written =>
      set written
      return .ok ()
    | .error fault => return .error fault
  print text := modify fun store => store.addResult text.toUTF8
  remark text := modify fun store => store.addRemark text.toUTF8

end FileStore

end ModelLineage
