import Docket.Text.Quoted

/-!
# Kinds of fields

What is converted is decided by kinds and not by types: a field has the kind of
its type, and two fields of one kind are copied as they are. A type of its own
may have a kind of its own. A nullable field has the kind of what it holds.
-/

set_option autoImplicit false

namespace Docket

/-- What a field is, as far as conversion goes. -/
inductive FieldKind where
  | id
  | text
  | timestamp
  | millis
  | integer
  | float
  | boolean
  | list
  | object
  | custom (name : String)
  deriving DecidableEq

namespace FieldKind

/-- The name of a kind. -/
def name : FieldKind → String
  | .id => "id"
  | .text => "text"
  | .timestamp => "timestamp"
  | .millis => "millis"
  | .integer => "integer"
  | .float => "float"
  | .boolean => "bool"
  | .list => "list"
  | .object => "object"
  | .custom name => name

/-- A kind as it is shown in diagnostics. -/
def description : FieldKind → String
  | .id => "Id"
  | .text => "Text"
  | .timestamp => "Timestamp"
  | .millis => "Millis"
  | .integer => "Integer"
  | .float => "Float"
  | .boolean => "Bool"
  | .list => "List"
  | .object => "Object"
  | .custom name => s!"Custom({Text.quoted name})"

/-- The kinds that are not of one type's own. -/
def standard : List FieldKind :=
  [.id, .text, .timestamp, .millis, .integer, .float, .boolean, .list, .object]

/-- The standard kind of a name. -/
def ofName? (name : String) : Option FieldKind :=
  standard.find? fun kind => kind.name == name

end FieldKind

/-- What is known of a field without its type. -/
structure FieldSpec where
  name : String
  kind : FieldKind
  nullable : Bool
  deriving DecidableEq

end Docket
