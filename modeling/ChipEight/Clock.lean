/-!
# Clock readings

Time is a number of seconds in binary floating point with 53 significant bits. A reading is given
as a quotient of two integers of any size and is the number nearest to it. Quotients are rounded
once: two bits more than are kept, the last one telling whether anything was left over, decide
about the rounding like the exact quotient itself. A quotient is refused if it has no value or if
the number nearest to it would be infinite.
-/

namespace ChipEight

/-- A number of seconds, as a reading of a clock or as the distance between two readings. -/
abbrev Seconds := Float

/-- The number of binary digits of a natural number. -/
def bitLength (number : Nat) : Nat := if number = 0 then 0 else number.log2 + 1

/-- The quotient of two magnitudes in units of `2 ^ exponent`, rounded down, its last bit set if
anything was left over. -/
def scaledQuotient (numerator denominator : Nat) (exponent : Int) : Nat :=
  let dividend := numerator <<< (-exponent).toNat
  let divisor := denominator <<< exponent.toNat
  let quotient := dividend / divisor
  if dividend % divisor = 0 then quotient else quotient ||| 1

/-- The number of seconds nearest to the quotient of two integers. -/
def secondsOfRatio (numerator denominator : Int) : Seconds :=
  let dividend := numerator.natAbs
  let divisor := denominator.natAbs
  let exponent := max ((bitLength dividend : Int) - bitLength divisor) (-1021) - 55
  let magnitude := (UInt64.ofNat (scaledQuotient dividend divisor exponent)).toFloat
  let scaled := magnitude.scaleB exponent
  if (numerator < 0) != (denominator < 0) then -scaled else scaled

/-- Why a quotient is no reading. -/
inductive QuotientFault where
  | zeroDenominator
  | tooLarge
  deriving DecidableEq, Repr

/-- The wording of the fault. -/
def QuotientFault.message : QuotientFault → String
  | zeroDenominator => "division by zero"
  | tooLarge => "integer division result too large for a float"

/-- The reading that a quotient of two integers stands for. -/
def readingOfRatio (numerator denominator : Int) : Except QuotientFault Seconds :=
  if denominator = 0 then .error .zeroDenominator
  else
    let reading := secondsOfRatio numerator denominator
    if reading.isInf then .error .tooLarge else .ok reading

end ChipEight
