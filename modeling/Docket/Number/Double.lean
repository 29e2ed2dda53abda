/-!
# Binary floating-point numbers

A `Double` is a finite number of the binary64 format. It is kept as a sign and a
magnitude, the 63 bits of its exponent and fraction read as one number. In this
form the order of two numbers of one sign is the order of their magnitudes, so
comparing two doubles is comparing two integers (`rank`), and negative zero is
the one number that has the rank of another one.

All arithmetic is exact: a double is a natural number times a power of two, and
`ofRatio` is the one place where a value is rounded, to the nearest double and
to the even one of two that are equally near.
-/

set_option autoImplicit false

namespace Docket

/-- A finite binary64 number. -/
structure Double where
  negative : Bool
  /-- The exponent field and the fraction field, as one number. -/
  magnitude : Nat
  finite : magnitude < 0x7FF0000000000000
  deriving DecidableEq

namespace Double

/-- The position of a double on the line of doubles; both zeros have rank 0. -/
def rank (number : Double) : Int :=
  if number.negative then -(number.magnitude : Int) else number.magnitude

/-- Positive zero. -/
def zero : Double :=
  ⟨false, 0, by decide⟩

/-- A double that is zero, of either sign. -/
def isZero (number : Double) : Bool :=
  number.magnitude == 0

/-- The double without the sign of a zero: negative zero becomes zero and every
other number stays. -/
def unsignedZero (number : Double) : Double :=
  if number.magnitude = 0 then zero else number

/-- Two to the 52nd: the number of fractions that one exponent has, and the least
significand of a normal number. -/
def leastNormal : Nat := 0x10000000000000

/-- The integer that is multiplied by a power of two. -/
def significand (number : Double) : Nat :=
  let fraction := number.magnitude % leastNormal
  if number.magnitude / leastNormal = 0 then fraction else leastNormal + fraction

/-- The exponent of that power of two. -/
def exponent (number : Double) : Int :=
  let field := number.magnitude / leastNormal
  (max field 1 : Nat) - 1075

/-- The quotient of two natural numbers, rounded to the nearest integer, and to
the even one of two that are equally near. -/
def roundedQuotient (numerator denominator : Nat) : Nat :=
  let quotient := numerator / denominator
  let twice := 2 * (numerator % denominator)
  if twice < denominator then quotient
  else if denominator < twice then quotient + 1
  else quotient + quotient % 2

/-- A ratio scaled down by a power of two, as numerator and denominator. -/
def scaledDown (numerator denominator : Nat) (power : Int) : Nat × Nat :=
  (numerator <<< (-power).toNat, denominator <<< power.toNat)

/-- The exponent at which the significand of a positive ratio has 53 bits, or
the least exponent if that is greater. -/
def exponentOf (numerator denominator : Nat) : Int :=
  let guess : Int := (numerator.log2 : Int) - denominator.log2 - 52
  let scaled := scaledDown numerator denominator guess
  let exact := if scaled.1 < scaled.2 * leastNormal then guess - 1 else guess
  max exact (-1074)

/-- The double nearest to a ratio; none if it is beyond the largest double. A
significand that rounding lengthens by a bit carries into the exponent field by
itself, and so does the step from the subnormal numbers to the normal ones. -/
def ofRatio (negative : Bool) (numerator denominator : Nat) : Option Double :=
  if numerator = 0 ∨ denominator = 0 then some ⟨negative, 0, by decide⟩
  else
    let power := exponentOf numerator denominator
    let scaled := scaledDown numerator denominator power
    let magnitude := (power + 1074).toNat * leastNormal + roundedQuotient scaled.1 scaled.2
    if finite : magnitude < 0x7FF0000000000000 then some ⟨negative, magnitude, finite⟩ else none

/-- The double nearest to an integer; zero if there is none, which is far
beyond the integers of 64 bits. -/
def ofInt (value : Int) : Double :=
  (ofRatio (decide (value < 0)) value.natAbs 1).getD zero

/-- The value of a double without its sign, as numerator and denominator. -/
def ratio (number : Double) : Nat × Nat :=
  (number.significand <<< number.exponent.toNat, 1 <<< (-number.exponent).toNat)

/-- The double with the other sign. -/
def negated (number : Double) : Double :=
  ⟨!number.negative, number.magnitude, number.finite⟩

end Double

end Docket
