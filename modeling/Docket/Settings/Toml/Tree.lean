import Docket.Json.Basic

/-!
# Tables under construction

A TOML text builds a tree of tables by statements in any order, and most ways to
define something twice are faults. So a table remembers how it came to be: by a
header of its own, only as the parent of another header, or by a dotted key.
A header may open a table that so far was only a parent. A dotted key may go on
only in a table that dotted keys made. An array of tables grows by its own
headers, and headers below it belong to its last table.
-/

set_option autoImplicit false

namespace Docket.Toml

/-- How a table came to be. -/
inductive TableOrigin where
  | header
  | parent
  | dottedKey
  deriving DecidableEq

/-- A value, a table or an array of tables. -/
inductive Node where
  | value (json : Json)
  | table (origin : TableOrigin) (members : List (String × Node))
  /-- An array of tables, the last one apart. -/
  | tables (earlier : List Json) (last : List (String × Node))

/-- The members of a table under construction. -/
abbrev Members := List (String × Node)

mutual

/-- The value of a node. -/
def Node.toJson : Node → Json
  | .value json => json
  | .table _ members => .object (membersToJson members)
  | .tables earlier last => .array (earlier ++ [.object (membersToJson last)])

/-- The members of a table as they are in an object. -/
def membersToJson : List (String × Node) → Document
  | [] => []
  | (name, node) :: rest => Document.insert (membersToJson rest) name node.toJson

end

namespace Members

/-- The node of a name. -/
def get? (members : Members) (name : String) : Option Node :=
  (members.find? fun member => member.1 == name).map Prod.snd

/-- The members with a node for a name. -/
def set : Members → String → Node → Members
  | [], name, node => [(name, node)]
  | (other, old) :: rest, name, node =>
      if other = name then (name, node) :: rest else (other, old) :: set rest name node

/-- Changes the members of the table at a path. Headers make the tables on the
way that are missing. -/
def changeAt (change : Members → Option Members) : List String → Members → Option Members
  | [], members => change members
  | name :: path, members =>
      match members.get? name with
      | none => (changeAt change path []).map fun inner => members.set name (.table .parent inner)
      | some (.value _) => none
      | some (.table origin inner) =>
          (changeAt change path inner).map fun inner => members.set name (.table origin inner)
      | some (.tables earlier last) =>
          (changeAt change path last).map fun last => members.set name (.tables earlier last)

/-- Opens the table of a header. -/
def openTable (name : String) (members : Members) : Option Members :=
  match members.get? name with
  | none => some (members.set name (.table .header []))
  | some (.table .parent inner) => some (members.set name (.table .header inner))
  | _ => none

/-- Adds a table to an array of tables. -/
def addTable (name : String) (members : Members) : Option Members :=
  match members.get? name with
  | none => some (members.set name (.tables [] []))
  | some (.tables earlier last) =>
      some (members.set name (.tables (earlier ++ [.object (membersToJson last)]) []))
  | _ => none

/-- Writes a value under a dotted key. -/
def assign (value : Json) : (path : List String) → (name : String) → Members → Option Members
  | [], name, members =>
      if (members.get? name).isSome then none else some (members.set name (.value value))
  | parent :: path, name, members =>
      match members.get? parent with
      | none =>
          (assign value path name []).map fun inner =>
            members.set parent (.table .dottedKey inner)
      | some (.table .dottedKey inner) =>
          (assign value path name inner).map fun inner =>
            members.set parent (.table .dottedKey inner)
      | _ => none

end Members

end Docket.Toml
