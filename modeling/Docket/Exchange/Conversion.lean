import Docket.Conversion.Copier
import Docket.Exchange.Reading
import Docket.Specimen.Models

/-!
# Conversions by description

A copier is described by its policy, the rules of its registry, whether it passes
over empty values, and the fields that it skips. Record types and coercions are
named; they are the specimens.
-/

set_option autoImplicit false

namespace Docket.Exchange

variable {m : Type → Type} [Monad m] [MonadExceptOf Refusal m]

/-- Goes on with the type of records of a name. -/
def withRecordType {α : Type} (name : String) (next : RecordType → m α) : m α :=
  match Specimen.ofName? name with
  | some type => next type
  | none => throw (.senseless s!"unknown record {name}")

/-- A kind of fields by its name. -/
def kind (name : String) : m FieldKind :=
  match Text.stripStart? "custom:".toList name.toList with
  | some own => pure (.custom (String.ofList own))
  | none => orElseRefuse (.senseless s!"unknown kind {name}") (FieldKind.ofName? name)

/-- A registry of coercions by its rules. -/
def registry (value : Json) : m CoercionRegistry := do
  let input ← members value
  let base : CoercionRegistry := if text? input "base" = some "empty" then .empty else .default
  let rules ← items input "rules"
  rules.foldlM
    (fun registry rule => do
      let rule ← members rule
      let name ← text rule "fn"
      let coercion ← orElseRefuse (.senseless s!"unknown fn {name}") (Specimen.coercion? name)
      return registry.register (← kind (← text rule "from"))
        (← kind (← text rule "to")) coercion)
    base

/-- The registry of coercions that a request names. -/
def registryOf (input : Document) : m CoercionRegistry :=
  match Document.get? input "registry" with
  | none => pure .default
  | some value => registry value

/-- The policy that a request names. -/
def policyOf (input : Document) : m ConversionPolicy :=
  match Document.get? input "policy" with
  | none => pure .bestEffort
  | some (.string "strict") => pure .strict
  | some (.string "best_effort") => pure .bestEffort
  | some _ => throw (.senseless "policy")

/-- The names of fields that a copier skips: a list of them, or one. -/
def skipOf (input : Document) : m (List String) :=
  match Document.get? input "skip" with
  | none => pure []
  | some (.string name) => pure [name]
  | some value => typed Codec.text.list value

/-- The copier that a request describes. -/
def copierOf (input : Document) : m Copier := do
  let policy ← policyOf input
  let registry ← registryOf input
  let skip ← skipOf input
  return ⟨registry, policy, flag input "ignore_empty", skip⟩

/-- What is known of a field, as JSON. -/
def fieldSpecJson (spec : FieldSpec) : Json :=
  .array [.string spec.name, .string spec.kind.name, .boolean spec.nullable]

/-- A conversion as a part of an answer. -/
def converted {α : Type} (result : Logged (Except ConversionError α)) : Answer α := do
  orRefuse (fun cause => .failure (.conversion cause)) (← liftM result)

end Docket.Exchange
