import Docket.Conversion.Copier
import Docket.Criteria.Basic
import Docket.Persistence.Access

/-!
# Repositories

A repository offers the stored records of one type as records of the
application's own type. It translates criteria to filters and converts records
both ways, by copying unless a converter is given.

Saving a record without an identifier inserts it, stamped with its creation;
saving any other record updates the stored one. Removing is marking as deleted:
the time of deletion is written to every matching record.
-/

set_option autoImplicit false

namespace Docket

/-- Stored records of a type, as records of an application's type. -/
structure Repository (σ : Type) (model : ModelType) (entity : RecordType) where
  access : Access σ model
  custom : Option (ModelConverter model.toRecordType entity)
  copier : Copier

namespace Repository

variable {σ : Type} {model : ModelType} {entity : RecordType}

/-- A repository that converts by copying. -/
def ofAccess (access : Access σ model) : Repository σ model entity :=
  ⟨access, none, .default⟩

/-- The converter that is used. -/
def converter (repository : Repository σ model entity) :
    ModelConverter model.toRecordType entity :=
  repository.custom.getD (.ofCopier repository.copier model.toRecordType entity)

/-- A repository as it is shown in diagnostics. -/
def description (repository : Repository σ model entity) : String :=
  s!"DocumentRepository \x7b dao: {repository.access.description}, " ++
    s!"custom_converter: {repository.custom.isSome}, copier: {repository.copier.description} \x7d"

/-- The filter of criteria. -/
def filter (criteria : Criteria) : Action σ Document :=
  Action.ofExcept (criteria.build.mapError .criteria)

/-- Saves a record. -/
def save (repository : Repository σ model entity) (record : entity.Value) :
    Action σ WriteResult := do
  let stored ← Action.ofConversion (repository.converter.toModel record)
  let now ← Action.clock
  if (model.id stored).isUnassigned then
    let id ← Action.nextId
    repository.access.insert
      (model.stampUpdated now (model.stampCreated now (model.setId id stored)))
  else
    let stamped := model.stampUpdated now stored
    repository.access.updateById (model.id stamped) stamped

/-- The fields that mark a record as deleted. -/
def deletion (now : Instant) : Document :=
  Document.single FieldName.deletedAt (.string now.stored)

/-- Marks the matching records as deleted. -/
def remove (repository : Repository σ model entity) (criteria : Criteria) :
    Action σ WriteResult := do
  let filter ← filter criteria
  let now ← Action.clock
  repository.access.updateMany filter (deletion now)

/-- The matching records. -/
def find (repository : Repository σ model entity) (criteria : Criteria) :
    Action σ (List entity.Value) := do
  let records ← repository.access.find (← filter criteria)
  Action.ofConversion (repository.converter.toEntities records)

/-- The newest matching record. -/
def findOne (repository : Repository σ model entity) (criteria : Criteria) :
    Action σ entity.Value := do
  let record ← repository.access.findOne (← filter criteria)
  Action.ofConversion (repository.converter.toEntity record)

/-- A page of the matching records, and the number of all of them. -/
def paging (repository : Repository σ model entity) (criteria : Criteria)
    (request : PageRequest) : Action σ (List entity.Value × Int) := do
  let (records, total) ← repository.access.paging (← filter criteria) request
  return (← Action.ofConversion (repository.converter.toEntities records), total)

/-- A record matches. What prevents the answer is reported and counts as no. -/
def exist (repository : Repository σ model entity) (criteria : Criteria) : Action σ Bool := do
  match ← Action.attempt (repository.findOne criteria) with
  | .ok _ => return true
  | .error failure =>
      if failure.isNotFound then return false
      else
        Action.report
          { level := .warn, origin := .repository, message := "Existence check failed"
            values := [("error", .text failure.message)] }
        return false

end Repository

end Docket
