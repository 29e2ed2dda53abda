import Docket.Paging
import Docket.Record.Basic

/-!
# Pages as JSON

Page requests and write results are read by their fields: a request may leave
out its page and its size, a write result may leave out nothing. All numbers are
signed integers of 64 bits.
-/

set_option autoImplicit false

namespace Docket

namespace PageRequest

/-- The fields of a request. -/
def fields : List Field :=
  [ .defaulted "page" .signed64 Signed64.zero,
    .defaulted "count" .signed64 ⟨defaultCount, by decide⟩ ]

/-- Reads a request. -/
def decode (value : Json) : Except DecodeError PageRequest :=
  (Row.decode fields value).map fun row => ⟨row.1.val, row.2.1.val⟩

/-- Writes a request. -/
def toJson (request : PageRequest) : Json :=
  .object [("count", .ofInt request.count), ("page", .ofInt request.page)]

end PageRequest

namespace Page

/-- Writes a page whose items are JSON. -/
def toJson (page : Page Json) : Json :=
  .object
    [ ("count", .ofInt page.count), ("items", .array page.items), ("page", .ofInt page.page),
      ("total", .ofInt page.total) ]

end Page

namespace WriteResult

/-- The fields of a write result. -/
def fields : List Field :=
  [⟨"count", Signed64, .signed64⟩, ⟨"ids", List String, Codec.text.list⟩]

/-- Reads a write result. -/
def decode (value : Json) : Except DecodeError WriteResult :=
  (Row.decode fields value).map fun row => ⟨row.1.val, row.2.1⟩

/-- Writes a write result. -/
def toJson (result : WriteResult) : Json :=
  .object [("count", .ofInt result.count), ("ids", .array (result.ids.map Json.string))]

end WriteResult

end Docket
