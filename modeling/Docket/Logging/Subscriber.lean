import Docket.Logging.Filter
import Docket.Settings.Config

/-!
# Where the log goes

Nothing is written until a subscriber is installed. The first configuration
decides what is written from then on; later ones find a subscriber there. An
entry is written as an object with its level, its origin and its values; the
message is one of the values.
-/

set_option autoImplicit false

namespace Docket

namespace LogValue

/-- The JSON of a value. -/
def toJson : LogValue → Json
  | .integer value => .ofInt value
  | .text value => .string value

end LogValue

namespace LogEntry

/-- The JSON of an entry. -/
def toJson (entry : LogEntry) : Json :=
  let values := entry.values.foldl
    (fun fields value => Document.insert fields value.1 value.2.toJson)
    (Document.single "message" (.string entry.message))
  .object [("fields", .object values), ("level", .string entry.level.name),
    ("target", .string entry.origin.path)]

end LogEntry

/-- What is written, and by which filter. -/
structure Subscriber where
  filter : Option LogFilter
  written : List LogEntry

namespace Subscriber

/-- No subscriber. -/
def none : Subscriber :=
  ⟨Option.none, []⟩

/-- Writes the entries that the filter admits. -/
def write (subscriber : Subscriber) (entries : List LogEntry) : Subscriber :=
  match subscriber.filter with
  | Option.none => subscriber
  | some filter =>
      { subscriber with written := subscriber.written ++ entries.filter filter.admits }

/-- Installs a subscriber by a configuration, if there is none yet. -/
def install (subscriber : Subscriber) (config : ServiceConfig) : Subscriber :=
  match subscriber.filter with
  | Option.none =>
      write { subscriber with filter := some (LogFilter.ofText config.logLevel) }
        [{ level := .info, origin := .tracing, message := "Tracing initialized"
           values := [("service", .text config.name), ("environment", .text config.environment)] }]
  | some _ =>
      subscriber.write
        [{ level := .debug, origin := .tracing
           message := "Tracing subscriber already installed", values := [] }]

/-- Says that nothing more follows. -/
def shutDown (subscriber : Subscriber) : Subscriber :=
  subscriber.write
    [{ level := .info, origin := .tracing, message := "Tracing shutdown complete", values := [] }]

end Subscriber

end Docket
