import Docket.Json.Printer
import Docket.Record.Basic

/-!
# Coercions

A coercion turns the JSON of a field of one kind into the JSON of a field of
another kind, or says why it cannot. A registry has at most one for a pair of
kinds. At the start it has eight, between identifiers and text and between the
three ways to write a time.
-/

set_option autoImplicit false

namespace Docket

/-- Turns a value of one kind into a value of another one. -/
abbrev Coercion := Json → Except String Json

namespace Coercion

/-- An identifier as text. -/
def idToText : Coercion
  | .string text => .ok (.string text)
  | other => .error s!"expected an id string, got {other.text}"

/-- Text as an identifier; the empty text stands for the unassigned one. -/
def textToId : Coercion
  | .string text =>
      if text.isEmpty then .ok RecordId.unassigned.toJson
      else
        match RecordId.parse text with
        | .ok id => .ok id.toJson
        | .error cause => .error cause.message
  | other => .error s!"expected a string, got {other.text}"

/-- A timestamp as milliseconds. The refusal of a text stands for the text of the
timestamp parser's own error, which is not modelled. -/
def timestampToMillis : Coercion
  | .string text =>
      match Rfc3339.parse? text with
      | some instant => .ok (.ofInt instant.millis)
      | none => .error "not a timestamp"
  | other => .error s!"expected an RFC 3339 string, got {other.text}"

/-- Milliseconds as a timestamp. -/
def millisToTimestamp : Coercion := fun value =>
  match value.toInt64? with
  | none => .error s!"expected integer milliseconds, got {value.text}"
  | some millis =>
      match Instant.ofMillis? millis with
      | some instant => .ok (.string instant.text)
      | none => .error s!"{millis} ms is out of range"

/-- An integer as it is. -/
def sameInteger : Coercion
  | .number (.integer value fits) => .ok (.number (.integer value fits))
  | other => .error s!"expected an integer, got {other.text}"

end Coercion

/-- Coercions by pairs of kinds. -/
structure CoercionRegistry where
  rules : List ((FieldKind × FieldKind) × Coercion)

namespace CoercionRegistry

/-- A registry without coercions. -/
def empty : CoercionRegistry :=
  ⟨[]⟩

/-- The registry with a coercion, which replaces the one that the pair of kinds
had. -/
def register (registry : CoercionRegistry) (source target : FieldKind) (coercion : Coercion) :
    CoercionRegistry :=
  ⟨((source, target), coercion) ::
    registry.rules.filter fun rule => rule.1 != (source, target)⟩

/-- The coercions that are known from the start. -/
def default : CoercionRegistry :=
  ((((((((empty
    ).register .id .text Coercion.idToText
    ).register .text .id Coercion.textToId
    ).register .timestamp .millis Coercion.timestampToMillis
    ).register .millis .timestamp Coercion.millisToTimestamp
    ).register .timestamp .integer Coercion.timestampToMillis
    ).register .integer .timestamp Coercion.millisToTimestamp
    ).register .millis .integer Coercion.sameInteger
    ).register .integer .millis Coercion.sameInteger

/-- The coercion of a pair of kinds. -/
def get? (registry : CoercionRegistry) (source target : FieldKind) : Option Coercion :=
  (registry.rules.find? fun rule => rule.1 == (source, target)).map Prod.snd

/-- A pair of kinds has a coercion. -/
def contains (registry : CoercionRegistry) (source target : FieldKind) : Bool :=
  (registry.get? source target).isSome

/-- The pairs of kinds that have a coercion, as they are shown in diagnostics. -/
def description (registry : CoercionRegistry) : String :=
  let pairs := registry.rules.map fun rule => rule.1.1.name ++ "->" ++ rule.1.2.name
  let sorted := pairs.mergeSort fun left right => decide (left ≤ right)
  "CoercionRegistry \x7b rules: [" ++ ", ".intercalate (sorted.map Text.quoted) ++ "] \x7d"

end CoercionRegistry

end Docket
