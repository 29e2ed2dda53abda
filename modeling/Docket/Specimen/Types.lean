import Docket.Criteria.Basic
import Docket.Specimen.Records

/-!
# Specimen types and queries

Types of query fields and record fields by name, and two queries: one for users
and one for an audit trail. A field of a query that is not given has the blank
value of its type.
-/

set_option autoImplicit false

namespace Docket.Specimen

/-- A type with its codec. -/
structure FieldType where
  Value : Type
  codec : Codec Value

/-- The type of a codec. -/
def typed {α : Type} (codec : Codec α) : FieldType :=
  ⟨α, codec⟩

/-- The types of query fields. -/
def queryTypes : List (String × FieldType) :=
  [ ("i64", typed .signed64), ("u8", typed .unsigned8), ("f64", typed .measure),
    ("bool", typed .boolean), ("String", typed .text),
    ("Option<i64>", typed Codec.signed64.optional),
    ("Option<String>", typed Codec.text.optional), ("Vec<String>", typed Codec.text.list),
    ("RecordId", typed .recordId), ("DateTime", typed .timestamp), ("UnixTime", typed .millis),
    ("Level", typed level), ("Value", typed .json) ]

/-- The type of query fields of a name. -/
def queryType? (name : String) : Option FieldType :=
  (queryTypes.find? fun entry => entry.1 == name).map Prod.snd

/-- The kinds of types by name. -/
def kinds : List (String × FieldKind) :=
  [ ("RecordId", .id), ("String", .text), ("char", .text), ("DateTime", .timestamp),
    ("UnixTime", .millis), ("i8", .integer), ("i16", .integer), ("i32", .integer),
    ("i64", .integer), ("isize", .integer), ("u8", .integer), ("u16", .integer),
    ("u32", .integer), ("u64", .integer), ("usize", .integer), ("Level", .integer),
    ("f32", .float), ("f64", .float), ("bool", .boolean), ("Vec", .list), ("Value", .object),
    ("Map", .object), ("HashMap", .object), ("BTreeMap", .object), ("Money", money.kind) ]

/-- What is known of a field of a type, which may be nullable. -/
def specOf? (name typeName : String) : Option FieldSpec :=
  unwrapped typeName.length false typeName.toList
where
  /-- Takes away what makes the type nullable, layer by layer. -/
  unwrapped : (fuel : Nat) → (nullable : Bool) → List Char → Option FieldSpec
    | 0, _, _ => none
    | fuel + 1, nullable, typeName =>
        match Text.stripStart? "Option<".toList typeName with
        | some inner => unwrapped fuel true inner.dropLast
        | none =>
            (kinds.find? fun entry => entry.1.toList == typeName).map fun entry =>
              ⟨name, entry.2, nullable⟩

/-- A field that has the blank value of its type when it is not given. -/
def given {α : Type} (name : String) (codec : Codec α) : Field :=
  .defaulted name codec codec.blank

/-- The tagged fields of a row. -/
def queryFields : (fields : List Field) → (tags : List String) → Row fields →
    Logged (List QueryField)
  | [], _, _ => .silent []
  | field :: rest, tags, (value, others) => do
      let first ← QueryField.ofTyped field.name (tags.headD "") (field.codec.encode value)
        (field.codec.encode field.codec.blank)
      let others ← queryFields rest tags.tail others
      return first :: others

/-- The fields of a query for users. -/
def userFields : List Field :=
  [ given "user_name" .text, given "age" .signed64, given "status" Codec.text.list,
    given "nick" .text, given "email" .text, given "secret" .text, given "id" .text ]

/-- The tags of a query for users. -/
def userTags : List String :=
  ["like", "ne", "in", "nil", "empty,mail", "-", ""]

/-- The fields of a query for an audit trail. -/
def auditFields : List Field :=
  [ given "id" .recordId, given "since" .timestamp, given "actor" .text,
    given "owner" .recordId, given "level" level, given "score" Codec.measure.optional ]

/-- The tags of a query for an audit trail. -/
def auditTags : List String :=
  ["", "ne", "", "nil", "empty,lvl", "ne"]

end Docket.Specimen
