import ModelLineage.Command.Execution

/-!
# The program

Files, arguments and outputs of the process, around `Request.perform`.
-/

namespace ModelLineage

/-- The fault behind an operation on a path that failed. -/
def faultOfError (path : String) : IO.Error → StorageFault
  | .noFileOrDirectory .. => .missing
  | .inappropriateType _ code _ =>
    if code = 21 ∨ code = 0 - 21 then .directory else .notDirectory
  | .invalidArgument .. => if '\x00' ∈ path.toList then .nulInName else .nameTooLong
  | .resourceExhausted _ 28 _ => .noSpace
  | .noSuchThing _ 6 _ => .noDevice
  | .permissionDenied _ code details =>
    .other (details ++ " (os error " ++ code.toNat.repr ++ ")")
  | error => .other (toString error)

/-- The files and outputs of the process. -/
def processSurroundings : Surroundings IO where
  read path := do
    match ← (IO.FS.readBinFile path).toBaseIO with
    | .ok content => return .ok content
    | .error error => return .error (faultOfError path error)
  write path content := do
    match ← (IO.FS.writeBinFile path content).toBaseIO with
    | .ok () => return .ok ()
    | .error error => return .error (faultOfError path error)
  print text := IO.print text
  remark text := IO.eprint text

end ModelLineage

/-- Do what the arguments ask for. -/
def main (arguments : List String) : IO UInt32 := do
  let filter ← IO.getEnv "RUST_LOG"
  let request := ModelLineage.Request.ofArguments arguments
  let exitCode ← request.perform ModelLineage.processSurroundings filter
  return exitCode.toUInt32
