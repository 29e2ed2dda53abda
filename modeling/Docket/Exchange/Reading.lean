import Docket.Exchange.Refusal
import Docket.Logging.Entry
import Docket.Record.Basic

/-!
# Reading requests

A request is an object. A member that is not there counts as null where a value
of some type is read, and an absent list is empty. A value that is not of its
type makes the request unreadable.
-/

set_option autoImplicit false

namespace Docket.Exchange

/-- A part of an answer, with what was logged. -/
abbrev Answer := ExceptT Refusal Logged

variable {m : Type → Type} [Monad m] [MonadExceptOf Refusal m]

/-- A result, or a refusal. -/
def orRefuse {ε α : Type} (refusal : ε → Refusal) : Except ε α → m α
  | .ok value => pure value
  | .error error => throw (refusal error)

/-- What is there, or a refusal. -/
def orElseRefuse {α : Type} (refusal : Refusal) : Option α → m α
  | some value => pure value
  | none => throw refusal

/-- A member, or null. -/
def member (input : Document) (name : String) : Json :=
  (Document.get? input name).getD .null

/-- A member that is a text. -/
def text (input : Document) (name : String) : m String :=
  orElseRefuse (.senseless name) (member input name).string?

/-- A member that is a text, if it is there. -/
def text? (input : Document) (name : String) : Option String :=
  (Document.get? input name).bind Json.string?

/-- A value of a type. -/
def typed {α : Type} (codec : Codec α) (value : Json) : m α :=
  orRefuse (fun _ => .unreadable) (codec.decode value)

/-- A member of a type, if it is there. -/
def typed? {α : Type} (codec : Codec α) (input : Document) (name : String) : m (Option α) :=
  match Document.get? input name with
  | none => pure none
  | some value => some <$> typed codec value

/-- The members of an object. -/
def members (value : Json) : m Document :=
  typed .document value

/-- The items of a list; a list that is not there is empty. -/
def items (input : Document) (name : String) : m (List Json) :=
  match Document.get? input name with
  | none => pure []
  | some value => orElseRefuse (.senseless name) value.array?

/-- A member that is true. -/
def flag (input : Document) (name : String) : Bool :=
  Document.get? input name == some (.boolean true)

/-- An identifier. -/
def identifier (value : Json) (name : String) : m RecordId := do
  let text ← orElseRefuse (.senseless name) value.string?
  orRefuse (fun cause => .failure (.id cause)) (RecordId.parse text)

/-- A count. -/
def natural (input : Document) (name : String) : m Nat := do
  let value : Unsigned64 ← typed .unsigned64 (member input name)
  return value.val.toNat

/-- A record of a type. -/
def record (type : RecordType) (value : Json) : m type.Value :=
  orRefuse (fun _ => .unreadable) (type.decode value)

/-- A record as JSON. -/
def recordJson (type : RecordType) (value : type.Value) : m Json :=
  orRefuse (fun _ => .unwritable) (type.encode value)

/-- Records as JSON. -/
def recordsJson (type : RecordType) (values : List type.Value) : m Json := do
  return .array (← values.mapM (recordJson type))

end Docket.Exchange
