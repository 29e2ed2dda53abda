import Docket.Persistence.World
import Docket.Specimen.Models

/-!
# Specimen notes

Notes as they are stored, and the stores that hold them and nothing else, at the
start of 1970.
-/

set_option autoImplicit false

namespace Docket.Specimen

set_option synthInstance.maxSize 256 in
instance : DecidableEq noteModel.Value :=
  inferInstanceAs (DecidableEq (RecordId × String × Instant × Instant × Option Instant × Unit))

set_option synthInstance.maxSize 1024 in
instance : DecidableEq note.Value :=
  inferInstanceAs
    (DecidableEq (String × String × UnixTime × UnixTime × Option Signed64 × Unit))

/-- The document of a note that was created and updated at a time. -/
def noteDocument (id : RecordId) (title time : String) : Document :=
  [("_id", id.toJson), ("created_at", .string time), ("deleted_at", .null),
    ("title", .string title), ("updated_at", .string time)]

/-- The start of 1970, as it is stored. -/
def epochText : String :=
  "1970-01-01T00:00:00.000Z"

/-- An unused store. -/
def unused : World MemoryStore :=
  ⟨.empty, .fromMillis 0, .epoch, []⟩

/-- The identifier of the first note that is added to an unused store. -/
def firstMinted : RecordId :=
  (IdSource.fromMillis 0).next

/-- A store of notes. -/
def holding (documents : List Document) : World MemoryStore :=
  { unused with store := ⟨[("test.notes", ⟨documents, []⟩)]⟩ }

end Docket.Specimen
