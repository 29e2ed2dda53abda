import Docket.Json.Basic
import Docket.Time.Rfc3339

/-!
# Epoch milliseconds

A `UnixTime` is an instant that is written as a number of milliseconds since
1970. It may hold a finer instant than it writes. Milliseconds beyond the
instants that exist stand for the start of 1970.

The stored form of a timestamp is its text with three digits of fraction, so
that for years of four digits the order of texts is the order of instants.
-/

set_option autoImplicit false

namespace Docket

/-- An instant that is written as epoch milliseconds. -/
structure UnixTime where
  instant : Instant
  deriving DecidableEq

namespace UnixTime

/-- The time of a number of milliseconds; the start of 1970 if there is none. -/
def ofMillis (millis : Int) : UnixTime :=
  ⟨(Instant.ofMillis? millis).getD .epoch⟩

/-- The milliseconds since 1970. -/
def millis (time : UnixTime) : Int :=
  time.instant.millis

/-- The time of a clock reading, without what is finer than a millisecond. -/
def ofClock (reading : Instant) : UnixTime :=
  ofMillis reading.millis

/-- The text of a time. -/
def text (time : UnixTime) : String :=
  toString time.millis

/-- The number of a time. -/
def toJson (time : UnixTime) : Json :=
  .ofInt time.millis

/-- Reads a time from an integer, or from a string that is an integer of 64 bits
between blanks. -/
def ofJson? : Json → Option UnixTime
  | .number value => value.toInt64?.map ofMillis
  | .string value =>
      match Text.signedInteger? (Text.trimmed value.toList) with
      | some millis =>
          if -0x8000000000000000 ≤ millis ∧ millis < 0x8000000000000000 then
            some (ofMillis millis)
          else none
      | none => none
  | _ => none

end UnixTime

namespace Instant

/-- The stored form of a timestamp. -/
def stored (instant : Instant) : String :=
  Rfc3339.render .millis instant

/-- The text of a timestamp, with as many digits as it needs. -/
def text (instant : Instant) : String :=
  Rfc3339.render .fewest instant

end Instant

/-- Rewrites a string that is a strict timestamp to the stored form; any other
value stays. -/
def Json.storedTimestamp : Json → Json
  | .string value =>
      match Rfc3339.parse? value with
      | some instant => .string instant.stored
      | none => .string value
  | value => value

end Docket
