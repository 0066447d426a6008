import ModelLineage.Log.NumberText
import ModelLineage.Log.Threshold
import ModelLineage.Log.ValuePattern

/-!
# Log directives

A directive sets the threshold for all events, or for those whose origin begins
with a target and that have a certain field.  It may also be about spans, or
about values of fields, neither of which there are here: then it applies to no
event.

A directive is spelled `target[span{field=value}]=threshold`, and every part of
it may be missing.  The places of its marks are found in the text without the
blanks at its ends, but the parts are cut at these places from the text with its
blanks, so that a blank in front shifts every part.
-/

namespace ModelLineage

/-- Part of a filter. -/
inductive Directive where
  /-- About the events whose origin begins with the target and that have the named field, if any. -/
  | events (target : String) (field : Option String) (threshold : Threshold)
  /-- About spans, or about values of fields. -/
  | elsewhere
  deriving DecidableEq, Inhabited

/-- A condition on a field: that it is there, or that its value matches a pattern. -/
structure FieldCondition where
  name : String
  value : Option String
  deriving DecidableEq, Inhabited

namespace FieldCondition

/-- The condition that a text spells: a name, perhaps with a value after an equals sign. -/
def ofText? (text : String) : Option FieldCondition :=
  match text.splitOn "=" with
  | [] => none
  | [""] => none
  | [name] => some ⟨name, none⟩
  | name :: value :: _ =>
    if isNumberText value || isValuePattern value then some ⟨name, some value⟩ else none

end FieldCondition

namespace Directive

/-- The number of bytes of some characters. -/
def byteCount (text : List Char) : Nat :=
  text.foldr (fun char count => char.utf8Size + count) 0

/-- The part of a text from one place up to another, counted in bytes, if these cut no character. -/
def part? (text : String) (start stop : Nat) : Option String :=
  String.fromUTF8? (text.toUTF8.extract start stop)

/-- The threshold from a place on; if nothing stands there, everything is shown. -/
def thresholdFrom? (text : String) (start : Nat) : Option Threshold := do
  let word ← part? text start text.utf8ByteSize
  if word = "" then some .everything else Threshold.ofText? word

/-- The directive of a target or of a threshold for all events. -/
def ofWord (word : String) : Directive :=
  match Threshold.ofText? word with
  | some threshold => events "" none threshold
  | none => events word none .everything

/-- What the brackets of a directive hold: whether a span is named, and a condition on a field. -/
structure Brackets where
  isNamed : Bool
  condition : Option FieldCondition
  deriving DecidableEq, Inhabited

/-- The directive of its parts. -/
def assemble (target : String) (brackets : Brackets) (threshold : Threshold) : Directive :=
  match brackets with
  | ⟨false, none⟩ => events target none threshold
  | ⟨false, some ⟨field, none⟩⟩ => events target (some field) threshold
  | _ => elsewhere

/-- The threshold behind the brackets, `marked` being the text from the place `position` on. -/
def thresholdAfter? (text : String) (position : Nat) (marked : List Char) : Option Threshold :=
  match marked with
  | [] => some .everything
  | '=' :: _ => thresholdFrom? text (position + 1)
  | _ => none

/-- The rest of a directive from behind its opening bracket on. -/
def bracketed? (text : String) (target : String) (position : Nat) (marked : List Char) :
    Option Directive := do
  let span := marked.takeWhile fun char => char ≠ ']' && char ≠ '\x7b'
  let spanEnd := position + byteCount span
  match marked.dropWhile fun char => char ≠ ']' && char ≠ '\x7b' with
  | ']' :: rest =>
    let threshold ← thresholdAfter? text (spanEnd + 1) rest
    return assemble target ⟨true, none⟩ threshold
  | '\x7b' :: marked =>
    let name ← part? text position spanEnd
    let fieldEnd := spanEnd + 1 + byteCount (marked.takeWhile (· ≠ '\x7d'))
    match marked.dropWhile (· ≠ '\x7d') with
    | '\x7d' :: ']' :: rest =>
      let field ← part? text (spanEnd + 1) fieldEnd
      let condition ← FieldCondition.ofText? field
      let threshold ← thresholdAfter? text (fieldEnd + 2) rest
      return assemble target ⟨name ≠ "", some condition⟩ threshold
    | _ => none
  | _ => none

/-- A text without the blanks at its ends. -/
def trimmed (text : List Char) : List Char :=
  ((text.dropWhile isBlank).reverse.dropWhile isBlank).reverse

/-- Whether a directive may begin with a character, beside an opening bracket. -/
def mayBegin (char : Char) : Bool :=
  isAlphanumeric char || char = '-' || char = ':' || char = '_'

/-- The directive that a text spells, if it spells one. -/
def ofText? (text : String) : Option Directive :=
  let marked := trimmed text.toList
  let target := marked.takeWhile fun char => char ≠ '=' && char ≠ '['
  let targetEnd := byteCount target
  match marked with
  | [] => none
  | '[' :: rest => bracketed? text "" 1 rest
  | first :: _ =>
    if !mayBegin first then none
    else
      match marked.drop target.length with
      | '=' :: _ => do
        let target ← part? text 0 targetEnd
        let threshold ← thresholdFrom? text (targetEnd + 1)
        return events target none threshold
      | '[' :: rest => do
        let target ← part? text 0 targetEnd
        bracketed? text target (targetEnd + 1) rest
      | _ => some (ofWord text)

end Directive

end ModelLineage
