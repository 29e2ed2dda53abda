import Docket.Exchange.Reading
import Docket.Store.Watched

/-!
# Storage by description

The parts of requests to a store, and how the operations that it was asked for
and the outcomes of updates are written.
-/

set_option autoImplicit false

namespace Docket.Exchange

/-- What an update did, as JSON. -/
def outcomeJson (outcome : UpdateOutcome) : Json :=
  object
    [ ("matched", .ofInt outcome.matched), ("modified", .ofInt outcome.modified),
      ("upserted_id", optionalText outcome.upsertedId) ]

/-- A direction that a call names. -/
def sortKeyJson (key : String × OrderDirection) : Json :=
  .array [.string key.1, .string key.2.text]

/-- A call as JSON. -/
def callJson : StoreCall → Json
  | .insertOne place document => named "insert_one" place [("doc", .object document)]
  | .insertMany place documents =>
      named "insert_many" place [("docs", .array (documents.map Json.object))]
  | .updateOne place filter change =>
      named "update_one" place [("filter", .object filter), ("update", .object change)]
  | .updateMany place filter change =>
      named "update_many" place [("filter", .object filter), ("update", .object change)]
  | .find place filter options =>
      named "find" place
        [ ("filter", .object filter), ("sort", .array (options.sort.map sortKeyJson)),
          ("skip", optionalNumber (options.skip.map Int.ofNat)),
          ("limit", optionalNumber options.limit) ]
  | .count place filter => named "count" place [("filter", .object filter)]
  | .createIndexes place indexes =>
      named "create_indexes" place [("names", texts (indexes.map Index.name))]
where
  /-- A call of a name. -/
  named (name : String) (place : Namespace) (rest : List (String × Json)) : Json :=
    object ([("call", .string name), ("ns", .string place.text)] ++ rest)

variable {m : Type → Type} [Monad m] [MonadExceptOf Refusal m]

/-- A direction of a sort. -/
def direction (value : Json) : m OrderDirection :=
  orElseRefuse .unreadable (OrderDirection.ofJson? value)

/-- A field with a direction. -/
def sortKey : Json → m (String × OrderDirection)
  | .array [.string name, value] => do return (name, ← direction value)
  | _ => throw .unreadable

/-- An index. -/
def index (value : Json) : m Index := do
  let input ← members value
  let keys ← (← items input "keys").mapM sortKey
  let unique ← typed? .boolean input "unique"
  let name ← typed? Codec.text.optional input "name"
  return ⟨keys, unique.getD false, name.join⟩

/-- The part of a read that a step names. -/
def findOptions (step : Document) : m FindOptions := do
  let sort ← (← items step "sort").mapM sortKey
  let skip : Option Unsigned64 ← typed Codec.unsigned64.optional (member step "skip")
  let limit : Option Signed64 ← typed Codec.signed64.optional (member step "limit")
  return ⟨sort, skip.map fun skip => skip.val.toNat, limit.map Subtype.val⟩

end Docket.Exchange
