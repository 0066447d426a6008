import ModelLineage.Command.Help

/-!
# Command-line arguments

Arguments are read from left to right.  An option may be spelled long, `--name`
with its value in the next argument or after an equals sign, or short, several
of them in one argument with the value of the last one attached or next.  After
`--` every argument is positional.  Reading ends at the first wrong argument, and
as soon as help or the version is asked for.
-/

namespace ModelLineage

/-- A command to carry out. -/
inductive Command where
  | flatten (input : String) (output : Option String) (strict : Bool)
      (library projectName : Option String)
  | types (input : String)
  | info (library projectName : Option String)
  deriving DecidableEq, Inhabited

/-- What the arguments ask for. -/
inductive Request where
  | run (verbosity : Nat) (command : Command)
  | help (topic : HelpTopic)
  | version
  | misuse
  deriving DecidableEq, Inhabited

/-- An option of the command line. -/
inductive CommandOption where
  | verbose
  | help
  | version
  | strict
  | output
  | library
  | projectName
  deriving DecidableEq, Inhabited

namespace CommandOption

/-- The long spelling. -/
def long : CommandOption → String
  | verbose => "verbose"
  | help => "help"
  | version => "version"
  | strict => "strict"
  | output => "output"
  | library => "library"
  | projectName => "project-name"

/-- The short spelling, if there is one. -/
def short? : CommandOption → Option Char
  | verbose => some 'v'
  | help => some 'h'
  | version => some 'V'
  | strict => none
  | output => some 'o'
  | library => some 'l'
  | projectName => none

/-- Whether the option is followed by a value. -/
def takesValue : CommandOption → Bool
  | verbose => false
  | help => false
  | version => false
  | strict => false
  | output => true
  | library => true
  | projectName => true

end CommandOption

/-- The place in the command line: before the command, or after it. -/
inductive Level where
  | program
  | flatten
  | types
  | info
  deriving DecidableEq, Inhabited

namespace Level

/-- The options of a level. -/
def options : Level → List CommandOption
  | program => [.verbose, .help, .version]
  | flatten => [.output, .verbose, .strict, .library, .projectName, .help]
  | types => [.verbose, .help]
  | info => [.library, .verbose, .projectName, .help]

/-- The help topic of a level. -/
def topic : Level → HelpTopic
  | program => .program
  | flatten => .flatten
  | types => .types
  | info => .info

/-- Whether a level has an input. -/
def takesInput : Level → Bool
  | program => false
  | flatten => true
  | types => true
  | info => false

/-- The level after a command word. -/
def ofWord? (word : String) : Option Level :=
  [("flatten", flatten), ("types", types), ("info", info)].lookup word

/-- The option with a long spelling. -/
def longOption? (level : Level) (name : List Char) : Option CommandOption :=
  level.options.find? fun option => option.long.toList = name

/-- The option with a short spelling. -/
def shortOption? (level : Level) (letter : Char) : Option CommandOption :=
  level.options.find? fun option => option.short? = some letter

end Level

/-- What the arguments of one level have given so far. -/
structure Given where
  verbosity : Option Nat
  strict : Bool
  output : Option String
  library : Option String
  projectName : Option String
  input : Option String
  deriving DecidableEq, Inhabited

namespace Given

/-- Before the first argument. -/
def nothing : Given := ⟨none, false, none, none, none, none⟩

/-- Give an option without a value; help and version end the reading. -/
def flag (given : Given) (level : Level) : CommandOption → Except Request Given
  | .verbose => .ok { given with verbosity := some (given.verbosity.getD 0 + 1) }
  | .help => .error (.help level.topic)
  | .version => .error .version
  | .strict => if given.strict then .error .misuse else .ok { given with strict := true }
  | _ => .error .misuse

/-- Give an option its value; it may be given once, and a path is not empty. -/
def value (given : Given) (option : CommandOption) (text : String) : Except Request Given :=
  match option with
  | .output =>
    if given.output.isSome || text = "" then .error .misuse
    else .ok { given with output := some text }
  | .library =>
    if given.library.isSome then .error .misuse else .ok { given with library := some text }
  | .projectName =>
    if given.projectName.isSome then .error .misuse
    else .ok { given with projectName := some text }
  | _ => .error .misuse

/-- Give a positional argument. -/
def positional (given : Given) (level : Level) (text : String) : Except Request Given :=
  if !level.takesInput || given.input.isSome || text = "" then .error .misuse
  else .ok { given with input := some text }

/-- Read the letters of one argument; an option at its end may wait for its value. -/
def letters (given : Given) (level : Level) :
    List Char → Except Request (Given × Option CommandOption)
  | [] => .ok (given, none)
  | letter :: rest =>
    match level.shortOption? letter with
    | none => .error .misuse
    | some option =>
      if option.takesValue then
        match rest with
        | [] => .ok (given, some option)
        | '=' :: text => do return (← given.value option (String.ofList text), none)
        | text => do return (← given.value option (String.ofList text), none)
      else
        match given.flag level option with
        | .error request => .error request
        | .ok given => letters given level rest

/-- Read a long option; it may wait for its value. -/
def longOption (given : Given) (level : Level) (spelling : List Char) :
    Except Request (Given × Option CommandOption) :=
  match level.longOption? (spelling.takeWhile (· ≠ '=')), spelling.dropWhile (· ≠ '=') with
  | none, _ => .error .misuse
  | some option, [] =>
    if option.takesValue then .ok (given, some option)
    else do return (← given.flag level option, none)
  | some option, _ :: text =>
    if option.takesValue then do return (← given.value option (String.ofList text), none)
    else .error .misuse

/-- Read an argument as an option, if it is spelled as one. -/
def option? (given : Given) (level : Level) (argument : String) :
    Option (Except Request (Given × Option CommandOption)) :=
  match argument.toList with
  | '-' :: '-' :: spelling => some (given.longOption level spelling)
  | '-' :: letter :: rest => some (given.letters level (letter :: rest))
  | _ => none

/-- Read the arguments after `--`. -/
def positionals (given : Given) (level : Level) : List String → Except Request Given
  | [] => .ok given
  | argument :: arguments => do (← given.positional level argument).positionals level arguments

/-- Whether an argument may be the value of an option that waits for one. -/
def mayBeValue (argument : String) : Bool :=
  match argument.toList with
  | '-' :: _ :: _ => false
  | _ => true

/-- Read the arguments after the command, perhaps with an option that waits for its value. -/
def arguments (given : Given) (level : Level) (waiting : Option CommandOption) :
    List String → Except Request Given
  | [] => if waiting.isSome then .error .misuse else .ok given
  | argument :: rest =>
    match waiting with
    | some option =>
      if mayBeValue argument then
        match given.value option argument with
        | .error request => .error request
        | .ok given => given.arguments level none rest
      else .error .misuse
    | none =>
      if argument = "--" then given.positionals level rest
      else
        match given.option? level argument with
        | some (.error request) => .error request
        | some (.ok (given, waiting)) => given.arguments level waiting rest
        | none =>
          match given.positional level argument with
          | .error request => .error request
          | .ok given => given.arguments level none rest

/-- The command of a level, if everything that it needs is given. -/
def command? (given : Given) : Level → Option Command
  | .program => none
  | .flatten =>
    given.input.map fun input =>
      .flatten input given.output given.strict given.library given.projectName
  | .types => given.input.map .types
  | .info => some (.info given.library given.projectName)

end Given

namespace Request

/-- The help on a chain of commands. -/
def ofHelpWords : List String → Request
  | [] => .help .program
  | [word] =>
    if word = "help" then .help .help
    else
      match Level.ofWord? word with
      | some level => .help level.topic
      | none => .misuse
  | _ => .misuse

/-- The request of a command and its arguments, after a verbosity given before the command. -/
def ofCommand (verbosity : Option Nat) (level : Level) (arguments : List String) : Request :=
  match Given.nothing.arguments level none arguments with
  | .error request => request
  | .ok given =>
    match given.command? level with
    | some command => .run (given.verbosity.getD (verbosity.getD 0)) command
    | none => .misuse

/-- The request of the arguments from some point before the command on. -/
def ofArgumentsAfter (given : Given) : List String → Request
  | [] => .misuse
  | argument :: arguments =>
    if argument = "--" then .misuse
    else
      match given.option? .program argument with
      | some (.error request) => request
      | some (.ok (given, _)) => ofArgumentsAfter given arguments
      | none =>
        if argument = "help" then ofHelpWords arguments
        else
          match Level.ofWord? argument with
          | some level => ofCommand given.verbosity level arguments
          | none => .misuse

/-- The request of all arguments. -/
def ofArguments (arguments : List String) : Request :=
  ofArgumentsAfter .nothing arguments

end Request

end ModelLineage
