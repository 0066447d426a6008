import ModelLineage.Log.Directive

/-!
# Log filters

A filter is a list of directives.  Of the directives that apply to an event the
one with the longest target decides, and of those with one target one that names
a field, and of those alike the last.
-/

namespace ModelLineage

/-- A log filter. -/
structure LogFilter where
  directives : List Directive
  deriving DecidableEq, Inhabited

namespace LogFilter

/-- The filter that shows nothing but errors. -/
def errorsOnly : LogFilter := ⟨[.events "" none (.downTo .error)]⟩

/--
The filter of a text: directives with commas between them.  Without any
directive only errors are shown; a text with a part that is no directive is no
filter.
-/
def ofText? (text : String) : Option LogFilter :=
  let parts := (text.splitOn ",").filter fun part => part ≠ ""
  if parts.isEmpty then some errorsOnly
  else (parts.mapM Directive.ofText?).map LogFilter.mk

/-- The filter that shows warnings and errors. -/
def warnings : LogFilter := ⟨[.events "" none (.downTo .warn)]⟩

/-- How specific a directive is: by its target, then by whether it names a field. -/
structure Specificity where
  target : Nat
  field : Nat
  deriving DecidableEq

/-- Whether one directive is at most as specific as another. -/
def Specificity.atMost (left right : Specificity) : Bool :=
  left.target < right.target || (left.target = right.target && left.field ≤ right.field)

/-- The threshold that a directive sets for an event, if it applies to the event. -/
def applied? (event : Event) : Directive → Option (Specificity × Threshold)
  | .events target field threshold =>
    if target.toList.isPrefixOf event.origin.toList && field.all (· ∈ event.fields) then
      some (⟨target.length, field.elim 0 fun _ => 1⟩, threshold)
    else none
  | .elsewhere => none

/-- The threshold of the most specific directive that applies to an event. -/
def threshold? (filter : LogFilter) (event : Event) : Option Threshold :=
  let applied := filter.directives.filterMap (applied? event)
  (applied.foldl
    (fun best next =>
      match best with
      | none => some next
      | some held => if held.1.atMost next.1 then some next else best)
    none).map Prod.snd

/-- Whether an event is shown. -/
def shows (filter : LogFilter) (event : Event) : Bool :=
  match filter.threshold? event with
  | some threshold => threshold.shows event.severity
  | none => false

/-- The filter for a verbosity, when no filter is asked for. -/
def ofVerbosity (verbosity : Nat) : LogFilter :=
  let flattening := "boat_swift_codegen"
  match verbosity with
  | 0 => warnings
  | 1 => ⟨[.events "" none (.downTo .warn), .events flattening none (.downTo .info)]⟩
  | _ => ⟨[.events "" none (.downTo .info), .events flattening none (.downTo .debug)]⟩

/-- The filter of a run: the one that is asked for, or warnings if that is no filter. -/
def ofRequest (requested : Option String) (verbosity : Nat) : LogFilter :=
  match requested with
  | some text => (ofText? text).getD warnings
  | none => ofVerbosity verbosity

end LogFilter

end ModelLineage
