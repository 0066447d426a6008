import ModelLineage.Command.Arguments
import ModelLineage.Generator.Failure
import ModelLineage.Generator.Run
import ModelLineage.Log.Filter
import ModelLineage.Log.Line
import ModelLineage.Storage.Surroundings

/-!
# Carrying out a command

A command checks its settings, loads its document and flattens the graph, and it
stops at the first of these that fails.  Up to here it only reads.  Then what was
logged on the way is told, also when the command has failed, and only after that
the result is delivered: printed, or written to a file.
-/

namespace ModelLineage

/-- Why a command fails. -/
inductive CommandFailure where
  | run (failure : Failure)
  | loading (path : String) (error : LoadError)
  | writing (path : String) (error : LoadError)
  deriving DecidableEq, Inhabited

namespace CommandFailure

/-- What the report of a failure says first. -/
def heading : CommandFailure → String
  | run failure => failure.message
  | loading path _ => "failed to load model graph " ++ path
  | writing path _ => "failed to write " ++ path

/-- What lies behind a failure, each thing behind the one before. -/
def causes : CommandFailure → List String
  | run failure => failure.causes
  | loading _ error => error.message :: error.cause?.toList
  | writing _ error => error.message :: error.cause?.toList

/-- A cause whose further lines are set in as far as its first. -/
def indented (first further : String) (text : String) : List String :=
  match text.splitOn "\n" with
  | [] => []
  | head :: tail => (first ++ head) :: tail.map fun line => further ++ line

/-- The causes of a failure, numbered if there are several. -/
def causeLines : List String → List String
  | [] => []
  | [cause] => indented "    " "    " cause
  | several =>
    (several.zipIdx.map fun (cause, position) =>
      indented ("    " ++ position.repr ++ ": ") "       " cause).flatten

/-- The lines that report a failure. -/
def report (failure : CommandFailure) : List String :=
  ("Error: " ++ failure.heading) ::
    if failure.causes.isEmpty then []
    else "" :: "Caused by:" :: causeLines failure.causes

end CommandFailure

/-- What becomes of the result of a command. -/
inductive Delivery where
  | printed (text : String)
  | written (graph : ModelGraph) (path : String)
  deriving DecidableEq

/-- The end of a command that has not failed: its result, and closing words beside it. -/
structure Completion where
  delivery : Delivery
  closing : Option String
  deriving DecidableEq

/-- A command whose result is not delivered yet: what it logged, and what came of it. -/
structure Execution where
  events : Array Event
  result : Except CommandFailure Completion

namespace Execution

/-- A command that failed. -/
def failed (failure : CommandFailure) (events : Array Event) : Execution :=
  ⟨events, .error failure⟩

/-- A command that failed because its run failed. -/
def failedRun (failure : Failure) (events : Array Event) : Execution :=
  failed (.run failure) events

end Execution

/-- The strict check of a graph, or none. -/
def ModelGraph.checkIf (strict : Bool) (graph : ModelGraph) : Except Inconsistency Unit :=
  if strict then graph.check else .ok ()

/-- The document of a graph with a newline at its end. -/
def documentLine (graph : ModelGraph) : String :=
  graph.document ++ "\n"

/-- How a flattened graph is delivered. -/
def deliveryOf (graph : ModelGraph) (output : Option String) : Delivery :=
  match output with
  | none => .printed (documentLine graph)
  | some path => .written graph path

/-- The lines that tell how the fields of a model are declared. -/
def declarationLines (model : Model) : List String :=
  model.name ::
    (Generator.declaredFields model).map fun field =>
      "    " ++ field.name ++ ": " ++ field.declaration ++ if field.required then "" else "?"

/-- Lines as a text. -/
def textOfLines (lines : List String) : String :=
  String.join (lines.map fun line => line ++ "\n")

/-- The lines that tell about a generator. -/
def infoLines (settings : Settings) : List String :=
  [Settings.generatorName ++ " - " ++ Settings.generatorHelp,
    "stability: " ++ Settings.maturity.word,
    "library: " ++ settings.library,
    "supported libraries:"] ++
    (settings.supported.entries.map fun entry => "    " ++ entry.1 ++ ": " ++ entry.2) ++
    [settings.templateOptions.toJson.spreadText]

namespace Command

/-- Flatten a document. -/
def runFlatten
    {Effect : Type → Type} [Monad Effect]
    (files : FileAccess Effect)
    (input : String)
    (output : Option String)
    (strict : Bool)
    (choices : Settings.Choices) : Effect Execution := do
  match Settings.ofChoices choices with
  | .error unknown => return .failedRun (.unknownLibrary unknown) #[]
  | .ok settings =>
    match ← ModelGraph.loadFile files input with
    | .error error => return .failed (.loading input error) #[]
    | .ok graph =>
      match graph.checkIf strict with
      | .error found => return .failedRun (.inconsistent found) #[]
      | .ok () =>
        match (Generator.ofSettings settings).process graph with
        | (_, .error interruption) =>
          return .failedRun (.cyclicInheritance interruption.cycle) interruption.events
        | (generator, .ok flattened) =>
          return ⟨flattened.events,
            .ok ⟨deliveryOf flattened.graph output, some generator.banner⟩⟩

/-- Tell how the fields of the flattened models are declared. -/
def runTypes
    {Effect : Type → Type} [Monad Effect]
    (files : FileAccess Effect)
    (input : String) : Effect Execution := do
  match ← ModelGraph.loadFile files input with
  | .error error => return .failed (.loading input error) #[]
  | .ok graph =>
    match (Generator.ofSettings .standard).process graph with
    | (_, .error interruption) =>
      return .failedRun (.cyclicInheritance interruption.cycle) interruption.events
    | (_, .ok flattened) =>
      let lines := flattened.graph.models.flatMap declarationLines
      return ⟨flattened.events, .ok ⟨.printed (textOfLines lines), none⟩⟩

/-- Tell about the generator. -/
def runInfo (choices : Settings.Choices) : Execution :=
  match Settings.ofChoices choices with
  | .error unknown => .failedRun (.unknownLibrary unknown) #[]
  | .ok settings => ⟨#[], .ok ⟨.printed (textOfLines (infoLines settings)), none⟩⟩

/-- Carry out a command up to the delivery of its result. -/
def run
    {Effect : Type → Type} [Monad Effect]
    (files : FileAccess Effect) : Command → Effect Execution
  | flatten input output strict library projectName =>
    runFlatten files input output strict ⟨library, projectName, none⟩
  | types input => runTypes files input
  | info library projectName => return runInfo ⟨library, projectName, none⟩

end Command

/-- What a filter shows of some events. -/
def LogFilter.text (filter : LogFilter) (events : List Event) : String :=
  textOfLines ((events.filter filter.shows).map Event.line)

/-- Deliver a result, for what is logged then. -/
def Delivery.perform
    {Effect : Type → Type} [Monad Effect]
    (surroundings : Surroundings Effect) : Delivery → Effect (Except CommandFailure (List Event))
  | .printed text => do
    surroundings.print text
    return .ok []
  | .written graph path => do
    match ← graph.saveFile surroundings.toFileAccess path with
    | .error error => return .error (.writing path error)
    | .ok () => return .ok [.graphWritten graph.size path]

/-- Report a failure, for the exit code. -/
def CommandFailure.tell
    {Effect : Type → Type} [Monad Effect]
    (surroundings : Surroundings Effect)
    (failure : CommandFailure) : Effect Nat := do
  surroundings.remark (textOfLines failure.report)
  return 1

/-- Tell what was logged and deliver the result, or report the failure, for the exit code. -/
def Execution.finish
    {Effect : Type → Type} [Monad Effect]
    (surroundings : Surroundings Effect)
    (filter : LogFilter)
    (execution : Execution) : Effect Nat := do
  surroundings.remark (filter.text execution.events.toList)
  match execution.result with
  | .error failure => failure.tell surroundings
  | .ok completion =>
    match ← completion.delivery.perform surroundings with
    | .error failure => failure.tell surroundings
    | .ok events =>
      surroundings.remark (filter.text events)
      surroundings.remark (textOfLines completion.closing.toList)
      return 0

/-- Do what some arguments ask for, for the exit code; misuse has one of its own. -/
def Request.perform
    {Effect : Type → Type} [Monad Effect]
    (surroundings : Surroundings Effect)
    (requestedFilter : Option String) : Request → Effect Nat
  | .run verbosity command => do
    let execution ← command.run surroundings.toFileAccess
    execution.finish surroundings (.ofRequest requestedFilter verbosity)
  | .help topic => do
    surroundings.print topic.text
    return 0
  | .version => do
    surroundings.print versionText
    return 0
  | .misuse => do
    surroundings.remark "error: the arguments cannot be understood, see --help\n"
    return 2

end ModelLineage
