import Docket.Number.Double

/-!
# The shortest decimal of a double

Many decimals read back as the same double: those that lie between the middles
of the gaps to its two neighbours, the middles included when its significand is
even. The shortest digits are found by trying one digit, two digits and so on up
to seventeen. On each decimal grid only the two points around the value can lie
in that interval if any point does, so two candidates are tried, and of two that
fit the nearer one is taken.

All comparisons are between natural numbers: value, middles and candidates are
brought over one denominator.
-/

set_option autoImplicit false

namespace Docket.Double

/-- Decimal digits, and the power of ten of the first one. -/
structure Decimal where
  digits : List Nat
  exponent : Int
  deriving DecidableEq

/-- The half-open ends of the decimals that read back as a double: four times
the significand is the value, the lower end is one or two below it and the upper
end two above, all in units of a quarter of the last place. -/
structure Gap where
  low : Nat
  middle : Nat
  high : Nat
  /-- The exponent of two of the unit. -/
  unit : Int
  /-- The ends themselves read back. -/
  closed : Bool

/-- The interval of the decimals that read back as a double. -/
def gap (number : Double) : Gap :=
  let significand := number.significand
  let atPower := significand == leastNormal && number.magnitude / leastNormal != 1
  { low := 4 * significand - (if atPower then 1 else 2)
    middle := 4 * significand
    high := 4 * significand + 2
    unit := number.exponent - 2
    closed := significand % 2 == 0 }

namespace Gap

/-- A count of units over the denominator shared with `point`. -/
def level (interval : Gap) (power : Int) (units : Nat) : Nat :=
  units <<< interval.unit.toNat * Nat.pow 10 (-power).toNat

/-- A point `count · 10 ^ power` over the denominator shared with `level`. -/
def point (interval : Gap) (power : Int) (count : Nat) : Nat :=
  (count * Nat.pow 10 power.toNat) <<< (-interval.unit).toNat

/-- A point of a decimal grid reads back as the double. -/
def admits (interval : Gap) (power : Int) (count : Nat) : Bool :=
  let place := interval.point power count
  let low := interval.level power interval.low
  let high := interval.level power interval.high
  if interval.closed then low ≤ place && place ≤ high else low < place && place < high

/-- The point of the grid of a power of ten that is nearest to the value among
its two neighbours, if it reads back. -/
def nearest? (interval : Gap) (power : Int) : Option Nat :=
  let value := interval.level power interval.middle
  let step := interval.point power 1
  let below := value / step
  let above := below + 1
  let distanceBelow := value - below * step
  let distanceAbove := above * step - value
  let belowFits := below != 0 && interval.admits power below
  let aboveFits := interval.admits power above
  if belowFits && aboveFits then
    if distanceBelow < distanceAbove then some below
    else if distanceAbove < distanceBelow then some above
    else some (below + below % 2)
  else if belowFits then some below
  else if aboveFits then some above
  else none

end Gap

/-- An exponent of ten that is not above the one of the first digit of a
positive double, and at most one below it. -/
def decimalExponent (number : Double) : Int :=
  let ratio := number.ratio
  let bits : Int := (ratio.1.log2 : Int) - ratio.2.log2
  let guess := (bits - 1) * 30103 / 100000
  let reaches (power : Int) : Bool :=
    decide (ratio.2 * Nat.pow 10 power.toNat ≤ ratio.1 * Nat.pow 10 (-power).toNat)
  if reaches (guess + 1) then guess + 1 else if reaches guess then guess else guess - 1

/-- The first grid that holds a decimal that reads back, from `count` digits on. -/
def searchDigits (interval : Gap) (leading : Int) : (fuel count : Nat) → Option (Nat × Int)
  | 0, _ => none
  | fuel + 1, count =>
      let power := leading - (count : Int) + 1
      match interval.nearest? power with
      | some found => some (found, power)
      | none => searchDigits interval leading fuel (count + 1)

/-- Digits without their trailing zeros. -/
def withoutTrailingZeros (digits : List Nat) : List Nat :=
  (digits.reverse.dropWhile (· == 0)).reverse

/-- The shortest decimal that reads back as a double, without its sign; zero has
no digits. -/
def shortest (number : Double) : Decimal :=
  if number.isZero then ⟨[], 0⟩
  else
    match searchDigits number.gap number.decimalExponent 18 1 with
    | none => ⟨[], 0⟩
    | some (count, power) =>
        let digits := (Nat.toDigits 10 count).map fun character => character.toNat - '0'.toNat
        ⟨withoutTrailingZeros digits, power + (digits.length : Int) - 1⟩

/-- Decimal digits as text. -/
def digitText (digits : List Nat) : List Char :=
  digits.map Nat.digitChar

/-- How a double is written: positionally when the power of ten of its first
digit is from −5 to 15, always with a point and at least one digit on either
side of it; otherwise with an exponent that always has its sign. -/
def text (number : Double) : String :=
  let decimal := number.shortest
  let digits := digitText decimal.digits
  let sign := if number.negative then ['-'] else []
  let body :=
    if digits.isEmpty then ['0', '.', '0']
    else if -5 ≤ decimal.exponent ∧ decimal.exponent ≤ 15 then
      if decimal.exponent < 0 then
        ['0', '.'] ++ List.replicate ((-decimal.exponent).toNat - 1) '0' ++ digits
      else
        let whole := decimal.exponent.toNat + 1
        let padding := List.replicate (whole - digits.length) '0'
        let fraction := digits.drop whole
        digits.take whole ++ padding ++ ['.'] ++ (if fraction.isEmpty then ['0'] else fraction)
    else
      let fraction := digits.drop 1
      let point := if fraction.isEmpty then [] else '.' :: fraction
      let exponentSign := if decimal.exponent < 0 then '-' else '+'
      digits.take 1 ++ point ++ ['e', exponentSign] ++ Nat.toDigits 10 decimal.exponent.natAbs
  String.ofList (sign ++ body)

end Docket.Double
