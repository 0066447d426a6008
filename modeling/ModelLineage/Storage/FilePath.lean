import ModelLineage.Storage.FileAccess

/-!
# Paths

A path leads through directories to a file.  It starts where the program runs, or
at the root if it begins with a slash.  One directory, the workspace, holds the
files of interest; it lies among the temporary files.  Of the other directories
only those that are usual are known.
-/

namespace ModelLineage

/-- A directory that a path may lead through. -/
inductive Directory where
  | workspace
  /-- Where some names lead from the root; no name leads to the root itself. -/
  | below (names : List String)
  deriving DecidableEq, Inhabited

namespace Directory

/-- The directory that the root is. -/
def root : Directory := below []

/-- The directory of the temporary files. -/
def temporary : Directory := below ["tmp"]

/-- The directory that holds a directory; the root holds itself. -/
def parent : Directory → Directory
  | workspace => temporary
  | below names => below names.dropLast

/-- What stands before the name of a file in the directory when its place is spelled in full. -/
def lead : Directory → String
  | workspace => ""
  | below names => "/" ++ String.join (names.map fun name => name ++ "/")

/-- The usual directories, by the names that lead to them from the root. -/
def usual : List (List String) :=
  (["bin", "boot", "dev", "etc", "home", "lib", "lib64", "media", "mnt", "opt", "proc", "root",
    "run", "sbin", "srv", "sys", "tmp", "usr", "var"].map fun name => [name]) ++
  [["dev", "pts"], ["dev", "shm"], ["proc", "self"], ["proc", "self", "fd"], ["usr", "bin"],
    ["usr", "include"], ["usr", "lib"], ["usr", "local"], ["usr", "sbin"], ["usr", "share"],
    ["var", "cache"], ["var", "lib"], ["var", "log"], ["var", "tmp"]]

/-- The directory of the inputs and outputs of the program. -/
def streams : Directory := below ["proc", "self", "fd"]

/-- The names, from the root, that lead to a directory elsewhere. -/
def links : List (List String × Directory) :=
  [(["dev", "fd"], streams), (["proc", "self", "root"], root)]

/-- The known directory that a name stands for in a directory. -/
def child? : Directory → String → Option Directory
  | workspace, _ => none
  | below names, name =>
    let longer := names ++ [name]
    match links.lookup longer with
    | some directory => some directory
    | none => if longer ∈ usual then some (below longer) else none

/-- Whether files can be made in a directory; those that tell about processes take none. -/
def takesFiles : Directory → Bool
  | workspace => true
  | below names => names.head? ≠ some "proc"

end Directory

/-- A path as it is walked: whether it starts at the root, its names, and how it must end. -/
structure FilePath where
  fromRoot : Bool
  names : List String
  /-- Whether it must end at a directory. -/
  wantsDirectory : Bool
  deriving DecidableEq, Inhabited

namespace FilePath

/-- The bytes that the name of a file may have. -/
def nameLimit : Nat := 255

/-- The bytes that a path may have. -/
def pathLimit : Nat := 4095

/-- The path that a text spells; a slash at its end asks for a directory. -/
def ofText (text : String) : Except StorageFault FilePath :=
  if '\x00' ∈ text.toList then .error .nulInName
  else if pathLimit < text.utf8ByteSize then .error .nameTooLong
  else
    let parts := text.splitOn "/"
    .ok {
      fromRoot := 1 < parts.length ∧ parts.head? = some ""
      names := parts.filter fun part => part ≠ ""
      wantsDirectory := parts.getLast? = some "" }

end FilePath

end ModelLineage
