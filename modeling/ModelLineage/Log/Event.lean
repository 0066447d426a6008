/-!
# Log events

What a run has to tell beside its result.  An event is a fact; its severity, the
part of the program it comes from and its wording are functions of it.
-/

namespace ModelLineage

/-- Severities, the gravest first. -/
inductive Severity where
  | error
  | warn
  | info
  | debug
  | trace
  deriving DecidableEq, Inhabited

namespace Severity

/-- The place in the order of severities; the gravest is lowest. -/
def rank : Severity → Nat
  | error => 1
  | warn => 2
  | info => 3
  | debug => 4
  | trace => 5

/-- The word that opens a log line. -/
def label : Severity → String
  | error => "ERROR"
  | warn => "WARN"
  | info => "INFO"
  | debug => "DEBUG"
  | trace => "TRACE"

end Severity

/-- Something worth logging. -/
inductive Event where
  | unknownAncestor (model ancestor : String)
  | shadowedField (model field source : String)
  | flattenedModel (model : String) (own total : Nat)
  | flattenedGraph (models dangling conflicts : Nat)
  | graphWritten (models : Nat) (path : String)
  deriving DecidableEq, Inhabited

namespace Event

/-- How grave an event is. -/
def severity : Event → Severity
  | unknownAncestor .. => .warn
  | shadowedField .. => .debug
  | flattenedModel .. => .debug
  | flattenedGraph .. => .info
  | graphWritten .. => .info

/-- The part of the program that an event comes from. -/
def origin : Event → String
  | unknownAncestor .. => "boat_swift_codegen::flatten"
  | shadowedField .. => "boat_swift_codegen::flatten"
  | flattenedModel .. => "boat_swift_codegen::flatten"
  | flattenedGraph .. => "boat_swift_codegen::generator"
  | graphWritten .. => "boat_swift"

/-- The fields of an event: it has its wording and nothing else. -/
def fields (_ : Event) : List String := ["message"]

/-- The wording of an event. -/
def message : Event → String
  | unknownAncestor model ancestor =>
    "Model " ++ model ++ " lists unknown ancestor " ++ ancestor ++ ", skipping"
  | shadowedField model field source =>
    "Model " ++ model ++ ": field " ++ field ++ " inherited from " ++ source ++
      " shadowed by earlier instance"
  | flattenedModel model own total =>
    "Model " ++ model ++ " flattened: " ++ own.repr ++ " own fields, " ++ total.repr ++ " total"
  | flattenedGraph models dangling conflicts =>
    "Flattened " ++ models.repr ++ " models (" ++ dangling.repr ++ " dangling ancestors, " ++
      conflicts.repr ++ " field conflicts)"
  | graphWritten models path =>
    "Wrote " ++ models.repr ++ " models to " ++ path

end Event

end ModelLineage
