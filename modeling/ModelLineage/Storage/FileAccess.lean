/-!
# Access to files

A program reads and writes files through two operations, each of which may fail
with a fault.
-/

namespace ModelLineage

/-- Why a file cannot be read or written. -/
inductive StorageFault where
  | missing
  | directory
  | notDirectory
  | nameTooLong
  | nulInName
  | noSpace
  | noDevice
  | notText
  | other (message : String)
  deriving DecidableEq, Inhabited

namespace StorageFault

/-- The wording of a fault. -/
def message : StorageFault → String
  | missing => "No such file or directory (os error 2)"
  | directory => "Is a directory (os error 21)"
  | notDirectory => "Not a directory (os error 20)"
  | nameTooLong => "File name too long (os error 36)"
  | nulInName => "file name contained an unexpected NUL byte"
  | noSpace => "No space left on device (os error 28)"
  | noDevice => "No such device or address (os error 6)"
  | notText => "stream did not contain valid UTF-8"
  | other message => message

end StorageFault

/-- Reading and writing of files, as an effect. -/
structure FileAccess (Effect : Type → Type) where
  read : String → Effect (Except StorageFault ByteArray)
  write : String → ByteArray → Effect (Except StorageFault Unit)

/-- The text of a file. -/
def FileAccess.readText
    {Effect : Type → Type} [Monad Effect]
    (files : FileAccess Effect)
    (path : String) : Effect (Except StorageFault String) := do
  match ← files.read path with
  | .error fault => return .error fault
  | .ok bytes =>
    match String.fromUTF8? bytes with
    | some text => return .ok text
    | none => return .error .notText

end ModelLineage
