/-!
# Log entries

What the library reports while it works is data: an entry has a level, the
component that reports, a message and named values. A computation that reports
is a `Logged` value, the result together with the entries in the order in which
they were made.
-/

set_option autoImplicit false

namespace Docket

/-- How urgent an entry is. -/
inductive LogLevel where
  | error
  | warn
  | info
  | debug
  | trace
  deriving DecidableEq

namespace LogLevel

/-- Levels in order, the most urgent first. -/
def rank : LogLevel → Nat
  | .error => 1
  | .warn => 2
  | .info => 3
  | .debug => 4
  | .trace => 5

/-- The name of a level. -/
def name : LogLevel → String
  | .error => "ERROR"
  | .warn => "WARN"
  | .info => "INFO"
  | .debug => "DEBUG"
  | .trace => "TRACE"

end LogLevel

/-- The component that reports. -/
inductive LogOrigin where
  | queryFields
  | copier
  | access
  | repository
  | service
  | configuration
  | tracing
  deriving DecidableEq

namespace LogOrigin

/-- The path under which a component is written and filtered. -/
def path : LogOrigin → String
  | .queryFields => "acton_docstore::criteria::descriptor"
  | .copier => "acton_docstore::convert::copier"
  | .access => "acton_docstore::dao"
  | .repository => "acton_docstore::repository"
  | .service => "acton_docstore::service"
  | .configuration => "acton_docstore::config"
  | .tracing => "acton_docstore::observability"

end LogOrigin

/-- A named value of an entry. -/
inductive LogValue where
  | integer (value : Int)
  | text (value : String)
  deriving DecidableEq

/-- One log entry. -/
structure LogEntry where
  level : LogLevel
  origin : LogOrigin
  message : String
  values : List (String × LogValue)
  deriving DecidableEq

/-- A result with the entries that were made on the way to it. -/
structure Logged (α : Type) where
  value : α
  entries : List LogEntry

namespace Logged

variable {α β : Type}

/-- A result without entries. -/
def silent (value : α) : Logged α :=
  ⟨value, []⟩

/-- One entry. -/
def report (entry : LogEntry) : Logged Unit :=
  ⟨(), [entry]⟩

/-- Goes on from a result; the entries follow each other. -/
def andThen (first : Logged α) (next : α → Logged β) : Logged β :=
  let second := next first.value
  ⟨second.value, first.entries ++ second.entries⟩

instance : Monad Logged where
  pure := silent
  bind := andThen

end Logged

end Docket
