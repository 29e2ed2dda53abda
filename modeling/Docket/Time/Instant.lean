import Docket.Time.Calendar

/-!
# Instants

An instant is a second of Coordinated Universal Time, counted from the start of
1970, and a number of nanoseconds. A leap second has no number of its own: it is
the last second of a minute with a thousand million nanoseconds or more, so that
it comes after every instant of that second and before the next one. The order
of instants is the order of these pairs.

Instants exist from the start of year −262143 to the end of year 262142.
-/

set_option autoImplicit false

namespace Docket

/-- An instant, to the nanosecond. -/
structure Instant where
  second : Int
  nano : Nat
  inRange : -8334601228800 ≤ second ∧ second ≤ 8210266876799
  nano_lt : nano < 2000000000
  leap : nano < 1000000000 ∨ second % 60 = 59
  deriving DecidableEq

namespace Instant

/-- The instant of a second and nanoseconds, if there is one. -/
def ofSecond? (second : Int) (nano : Nat) : Option Instant :=
  if valid : (-8334601228800 ≤ second ∧ second ≤ 8210266876799) ∧ nano < 2000000000 ∧
      (nano < 1000000000 ∨ second % 60 = 59) then
    some ⟨second, nano, valid.1, valid.2.1, valid.2.2⟩
  else none

/-- The start of 1970. -/
def epoch : Instant :=
  ⟨0, 0, by decide, by decide, by decide⟩

instance : Inhabited Instant := ⟨epoch⟩

/-- The instant of a number of milliseconds since 1970, if there is one. -/
def ofMillis? (millis : Int) : Option Instant :=
  ofSecond? (millis / 1000) ((millis % 1000).toNat * 1000000)

/-- The milliseconds since 1970, rounded down. Those of a leap second count into
the next second. -/
def millis (instant : Instant) : Int :=
  instant.second * 1000 + (instant.nano / 1000000 : Nat)

/-- The order of instants. -/
def compare (left right : Instant) : Ordering :=
  (Ord.compare left.second right.second).then (Ord.compare left.nano right.nano)

/-- The date of an instant. -/
def date (instant : Instant) : Date :=
  .ofDayNumber (instant.second / 86400)

/-- The second of the day, from 0 to 86399. -/
def secondOfDay (instant : Instant) : Nat :=
  (instant.second % 86400).toNat

end Instant

end Docket
