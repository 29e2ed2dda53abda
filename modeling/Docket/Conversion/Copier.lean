import Docket.Conversion.Registry
import Docket.Failure
import Docket.Logging.Entry

/-!
# Copying records

A record is copied into another one field by field. Of each field of the
destination the source's field of the same name is taken, unless the field is to
be skipped, the source does not write it, or it is empty and empty values are
ignored. Null is copied to nullable fields only. A value of the same kind is
copied as it is, and one of another kind goes through the coercion of the two
kinds; without one the field is left alone, and that is reported.

A coercion can fail, and a value can fail to fit the destination's type. By the
strict policy either is an error and the destination stays as it was. The other
policy reports it and keeps the destination's value of that field.

The destination is written, changed and read back as a whole. When reading back
fails, the changes are made one after another, so that those that do not fit are
found and taken back.
-/

set_option autoImplicit false

namespace Docket

/-- What happens to a field that does not convert. -/
inductive ConversionPolicy where
  | bestEffort
  | strict
  deriving DecidableEq

namespace ConversionPolicy

/-- A policy as it is shown in diagnostics. -/
def description : ConversionPolicy → String
  | .bestEffort => "BestEffort"
  | .strict => "Strict"

end ConversionPolicy

/-- How records are copied. -/
structure Copier where
  registry : CoercionRegistry
  policy : ConversionPolicy
  ignoreEmpty : Bool
  skip : List String

namespace Copier

/-- Copies everything by the default coercions, as far as it converts. -/
def default : Copier :=
  ⟨.default, .bestEffort, false, []⟩

/-- A copier as it is shown in diagnostics. -/
def description (copier : Copier) : String :=
  let skip := ", ".intercalate (copier.skip.map Text.quoted)
  s!"Copier \x7b registry: {copier.registry.description}, policy: {copier.policy.description}, " ++
    s!"ignore_empty: {copier.ignoreEmpty}, skip: \x7b{skip}\x7d \x7d"

/-- A value that was copied: where from, where to, and what. -/
structure Change where
  source : FieldSpec
  target : FieldSpec
  value : Json

/-- The error of a field. -/
def fieldError (source target : FieldSpec) (reason : String) : ConversionError :=
  .field target.name source.kind.name target.kind.name reason

/-- The entry for a field whose kinds have no coercion. -/
def noCoercion (source target : FieldSpec) : LogEntry :=
  { level := .debug, origin := .copier
    message := "No coercion registered, field skipped"
    values := [("field", .text target.name), ("from", .text source.kind.name),
      ("to", .text target.kind.name)] }

/-- The entry for an error that is passed over. -/
def passedOver (message : String) (error : ConversionError) : LogEntry :=
  { level := .warn, origin := .copier, message, values := [("error", .text error.message)] }

/-- An error, or by the other policy a report of it with nothing as the result. -/
def settleError {α : Type} (copier : Copier) (message : String) (error : ConversionError) :
    Logged (Except ConversionError (Option α)) :=
  match copier.policy with
  | .strict => .silent (.error error)
  | .bestEffort => ⟨.ok none, [passedOver message error]⟩

/-- The value that a field of the destination gets, if it gets one. -/
def convert (copier : Copier) (source target : FieldSpec) (value : Json) :
    Logged (Except ConversionError (Option Json)) :=
  if value.isNull then .silent (.ok (if target.nullable then some .null else none))
  else if source.kind = target.kind then .silent (.ok (some value))
  else
    match copier.registry.get? source.kind target.kind with
    | none => ⟨.ok none, [noCoercion source target]⟩
    | some coercion =>
        match coercion value with
        | .ok converted => .silent (.ok (some converted))
        | .error reason =>
            copier.settleError "Field conversion failed, keeping destination value"
              (fieldError source target reason)

/-- The source's field and value that a field of the destination takes, if any. -/
def offered? (copier : Copier) (sources : List FieldSpec) (written : Document)
    (target : FieldSpec) : Option (FieldSpec × Json) :=
  if copier.skip.contains target.name then none
  else do
    let source ← sources.find? fun source => source.name == target.name
    let value ← Document.get? written target.name
    if copier.ignoreEmpty && value.isZero then none else some (source, value)

/-- The changes to the destination, field by field. -/
def changes (copier : Copier) (sources : List FieldSpec) (written : Document) :
    List FieldSpec → Logged (Except ConversionError (List Change))
  | [] => .silent (.ok [])
  | target :: rest =>
      match copier.offered? sources written target with
      | none => changes copier sources written rest
      | some (source, value) => do
          match ← copier.convert source target value with
          | .error error => return .error error
          | .ok converted =>
              match ← changes copier sources written rest with
              | .error error => return .error error
              | .ok others =>
                  return .ok (match converted with
                    | some value => ⟨source, target, value⟩ :: others
                    | none => others)

/-- A document with changes made to it. -/
def changed (document : Document) (changes : List Change) : Document :=
  changes.foldl (fun document change => Document.insert document change.target.name change.value)
    document

/-- Makes changes one after another, as long as the destination's type accepts
the result. -/
def accept (copier : Copier) (target : RecordType) :
    List Change → Document → Logged (Except ConversionError Document)
  | [], accepted => .silent (.ok accepted)
  | change :: rest, accepted => do
      let next := Document.insert accepted change.target.name change.value
      match target.decode (.object next) with
      | .ok _ => accept copier target rest next
      | .error reason =>
          match ← copier.settleError (α := Document)
              "Copied value does not fit destination, keeping destination value"
              (fieldError change.source change.target reason.message) with
          | .error error => return .error error
          | .ok _ => accept copier target rest accepted

/-- Reads the destination from its members. -/
def readBack (target : RecordType) (members : Document) :
    Except ConversionError target.Value :=
  (target.decode (.object members)).mapError fun reason =>
    .deserialize target.name reason.message

/-- The members of a record that is copied. -/
def written (record : RecordType) (value : record.Value) : Except ConversionError Document :=
  (record.members "not a struct" value).mapError (.serialize record.name)

/-- Copies a record into another one. The result is what the destination becomes. -/
def copyInto (copier : Copier) (source target : RecordType) (value : source.Value)
    (destination : target.Value) : Logged (Except ConversionError target.Value) := do
  match written source value, written target destination with
  | .error error, _ => return .error error
  | .ok _, .error error => return .error error
  | .ok given, .ok base =>
      match ← copier.changes source.fields given target.fields with
      | .error error => return .error error
      | .ok changes =>
          match target.decode (.object (changed base changes)) with
          | .ok result => return .ok result
          | .error _ =>
              match ← copier.accept target changes base with
              | .error error => return .error error
              | .ok accepted => return readBack target accepted

/-- What a copy leaves of its destination: the result, or what was there if the copy failed. -/
def leaves {α : Type} (destination : α) : Except ConversionError α → α
  | .ok result => result
  | .error _ => destination

/-- Copies a record into a blank one. -/
def copy (copier : Copier) (source target : RecordType) (value : source.Value) :
    Logged (Except ConversionError target.Value) :=
  copier.copyInto source target value target.blank

end Copier

/-- How stored records and the records of an application are turned into each
other. -/
structure ModelConverter (model entity : RecordType) where
  toModel : entity.Value → Logged (Except ConversionError model.Value)
  toEntity : model.Value → Logged (Except ConversionError entity.Value)

namespace ModelConverter

variable {model entity : RecordType}

/-- Converts by copying. -/
def ofCopier (copier : Copier) (model entity : RecordType) : ModelConverter model entity where
  toModel := copier.copy entity model
  toEntity := copier.copy model entity

/-- Converts values one after another up to the first one that fails. -/
def all {α β : Type} (convert : α → Logged (Except ConversionError β)) :
    List α → Logged (Except ConversionError (List β))
  | [] => .silent (.ok [])
  | value :: rest => do
      match ← convert value with
      | .error error => return .error error
      | .ok converted =>
          match ← all convert rest with
          | .error error => return .error error
          | .ok others => return .ok (converted :: others)

/-- Converts several stored records. -/
def toEntities (converter : ModelConverter model entity) (models : List model.Value) :
    Logged (Except ConversionError (List entity.Value)) :=
  all converter.toEntity models

/-- Converts several records of an application. -/
def toModels (converter : ModelConverter model entity) (entities : List entity.Value) :
    Logged (Except ConversionError (List model.Value)) :=
  all converter.toModel entities

end ModelConverter

end Docket
