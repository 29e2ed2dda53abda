import Docket.Json.Basic

/-!
# Pages and order

A page request names a page, counted from 0, and its size. Skip and boundary are
products that stop at the ends of the integers of 64 bits instead of wrapping.
-/

set_option autoImplicit false

namespace Docket

/-- An integer cut off at the ends of the signed integers of 64 bits. -/
def saturated (value : Int) : Int :=
  if value < -0x8000000000000000 then -0x8000000000000000
  else if 0x7FFFFFFFFFFFFFFF < value then 0x7FFFFFFFFFFFFFFF else value

/-- The direction of a sort. -/
inductive OrderDirection where
  | ascending
  | descending
  deriving DecidableEq, Inhabited

namespace OrderDirection

/-- The direction of reads that do not name one. -/
def default : OrderDirection := .descending

/-- The sort value of a direction. -/
def number : OrderDirection → Int
  | .ascending => 1
  | .descending => -1

/-- The short name of a direction. -/
def text : OrderDirection → String
  | .ascending => "asc"
  | .descending => "desc"

/-- The name under which a direction is written. -/
def name : OrderDirection → String
  | .ascending => "ascending"
  | .descending => "descending"

/-- The direction of a name, long or short. -/
def ofName? (name : String) : Option OrderDirection :=
  if name = "ascending" ∨ name = "asc" then some .ascending
  else if name = "descending" ∨ name = "desc" then some .descending
  else none

/-- Reads a direction from its name, or from an object that has the name as its
only member and null as the value. -/
def ofJson? : Json → Option OrderDirection
  | .string name => ofName? name
  | .object [(name, .null)] => ofName? name
  | _ => none

/-- An ordering as it counts in a direction. -/
def apply (direction : OrderDirection) (ordering : Ordering) : Ordering :=
  match direction with
  | .ascending => ordering
  | .descending => ordering.swap

end OrderDirection

/-- A request for one page. -/
structure PageRequest where
  page : Int
  count : Int
  deriving DecidableEq

namespace PageRequest

/-- The size of a page that a request does not name. -/
def defaultCount : Int := 20

/-- The first page at the default size. -/
def default : PageRequest :=
  ⟨0, defaultCount⟩

/-- The number of records before the page. -/
def skip (request : PageRequest) : Int :=
  saturated (request.page * request.count)

/-- The greatest number of records on the page. -/
def limit (request : PageRequest) : Int :=
  request.count

end PageRequest

/-- One page of results, with the request it answers. -/
structure Page (α : Type) where
  page : Int
  count : Int
  total : Int
  items : List α
  deriving DecidableEq

namespace Page

variable {α β : Type}

/-- The page that answers a request. -/
def ofRequest (request : PageRequest) (total : Int) (items : List α) : Page α :=
  ⟨request.page, request.count, total, items⟩

/-- A page without records. -/
def empty (request : PageRequest) : Page α :=
  ofRequest request 0 []

/-- Records remain behind the page. -/
def hasMore (page : Page α) : Bool :=
  decide (saturated (saturated (page.page + 1) * page.count) < page.total)

/-- The page with every item changed. -/
def map (change : α → β) (page : Page α) : Page β :=
  ⟨page.page, page.count, page.total, page.items.map change⟩

end Page

/-- What a write did: the number of records it affected and the identifiers it
names. -/
structure WriteResult where
  count : Int
  ids : List String
  deriving DecidableEq

namespace WriteResult

/-- A result that affected nothing. -/
def default : WriteResult :=
  ⟨0, []⟩

/-- A result with a count and no identifiers. -/
def ofCount (count : Int) : WriteResult :=
  ⟨count, []⟩

/-- The result of inserting one record. -/
def inserted (id : String) : WriteResult :=
  ⟨1, [id]⟩

/-- The result of inserting several records. -/
def insertedMany (ids : List String) : WriteResult :=
  ⟨ids.length, ids⟩

/-- The result with one identifier more. -/
def withId (result : WriteResult) (id : String) : WriteResult :=
  { result with ids := result.ids ++ [id] }

/-- The first identifier. -/
def id? (result : WriteResult) : Option String :=
  result.ids.head?

end WriteResult

end Docket
