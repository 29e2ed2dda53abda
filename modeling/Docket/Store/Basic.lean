import Docket.Paging
import Docket.Failure

/-!
# What a store is asked

A store holds collections of documents; a collection is found by the text of its
namespace. Reads are sorted, skip a number of documents and stop at a limit. An
index covers fields in order and may be unique.
-/

set_option autoImplicit false

namespace Docket

/-- The place of a collection. -/
structure Namespace where
  database : String
  collection : String
  deriving DecidableEq

namespace Namespace

/-- The text of a namespace. -/
def text (place : Namespace) : String :=
  place.database ++ "." ++ place.collection

end Namespace

/-- The order and the part of a read. -/
structure FindOptions where
  sort : List (String × OrderDirection)
  skip : Option Nat
  limit : Option Int
  deriving DecidableEq

namespace FindOptions

/-- Everything, in stored order. -/
def default : FindOptions :=
  ⟨[], none, none⟩

/-- At most a number of documents. -/
def limited (options : FindOptions) (limit : Int) : FindOptions :=
  { options with limit := some limit }

/-- The part of a list that options ask for. A limit of zero is none, and the
sign of a limit does not count. -/
def part {α : Type} (options : FindOptions) (found : List α) : List α :=
  let rest := found.drop (options.skip.getD 0)
  match options.limit with
  | none => rest
  | some limit => if limit = 0 then rest else rest.take limit.natAbs

end FindOptions

/-- What an update did. -/
structure UpdateOutcome where
  matched : Nat
  modified : Nat
  upsertedId : Option String
  deriving DecidableEq

namespace UpdateOutcome

/-- An update that matched nothing. -/
def nothing : UpdateOutcome :=
  ⟨0, 0, none⟩

end UpdateOutcome

/-- An index. -/
structure Index where
  keys : List (String × OrderDirection)
  unique : Bool
  givenName : Option String
  deriving DecidableEq

namespace Index

/-- The part of an index's name that a key makes. -/
def keyName (key : String × OrderDirection) : String :=
  key.1 ++ "_" ++ toString key.2.number

/-- The name of an index: the given one, or the fields with their directions. -/
def name (index : Index) : String :=
  match index.givenName with
  | some name => name
  | none => "_".intercalate (index.keys.map keyName)

/-- The value of a document under an index. A missing field counts as null. -/
def key (index : Index) (document : Document) : List Json :=
  index.keys.map fun entry => (Document.get? document entry.1).getD .null

end Index

end Docket
