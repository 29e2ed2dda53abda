import Docket.Persistence.Repository

/-!
# Services

A service passes requests on to its repository. It answers a page together with
the request for it, and reports writes and pages that fail.
-/

set_option autoImplicit false

namespace Docket

/-- A service over a repository. -/
structure Service (σ : Type) (model : ModelType) (entity : RecordType) where
  repository : Repository σ model entity

namespace Service

variable {σ α : Type} {model : ModelType} {entity : RecordType}

/-- A service as it is shown in diagnostics. -/
def description (service : Service σ model entity) : String :=
  s!"DocumentService \x7b repository: {service.repository.description} \x7d"

/-- Reports the failure of an operation, which then fails as before. -/
def reporting (message : String) (values : List (String × LogValue)) (action : Action σ α) :
    Action σ α := do
  match ← Action.attempt action with
  | .ok value => return value
  | .error failure =>
      Action.report
        { level := .error, origin := .service, message
          values := ("error", .text failure.message) :: values }
      throw failure

/-- Saves a record. -/
def save (service : Service σ model entity) (record : entity.Value) : Action σ WriteResult :=
  reporting "Failed to save entity" [] (service.repository.save record)

/-- A record matches. -/
def exist (service : Service σ model entity) (criteria : Criteria) : Action σ Bool :=
  service.repository.exist criteria

/-- The newest matching record. -/
def findOne (service : Service σ model entity) (criteria : Criteria) : Action σ entity.Value :=
  service.repository.findOne criteria

/-- The matching records. -/
def find (service : Service σ model entity) (criteria : Criteria) :
    Action σ (List entity.Value) :=
  service.repository.find criteria

/-- A page of the matching records. -/
def paging (service : Service σ model entity) (criteria : Criteria) (request : PageRequest) :
    Action σ (Page entity.Value) := do
  let (records, total) ← reporting "Paging query failed"
    [("page", .integer request.page), ("count", .integer request.count)]
    (service.repository.paging criteria request)
  return .ofRequest request total records

/-- Marks the matching records as deleted. -/
def remove (service : Service σ model entity) (criteria : Criteria) : Action σ WriteResult :=
  reporting "Failed to remove records" [] (service.repository.remove criteria)

end Service

end Docket
