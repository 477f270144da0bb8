import TwinNode.Json.Value
import TwinNode.Rounding

/-! A real of a JSON text stands for the nearest number of the binary format with 53 digits
and exponents from -1074 on; of two that are equally near, for the one whose last digit is
even. What is too large is infinite. -/

namespace TwinNode.Json

inductive Rounded where
  | notANumber
  | infinite
  /-- `significand` times two to the `exponent`. -/
  | finite (significand : Int) (exponent : Int)
  deriving DecidableEq, Repr

def twoTo (n : Nat) : Nat := Nat.pow 2 n

/-- The largest `k` for which two to the `k` is at most the quotient of two positive numbers. -/
def floorLog (numerator denominator : Nat) : Int :=
  let k : Int := (numerator.log2 : Int) - denominator.log2
  if denominator * twoTo k.toNat ≤ numerator * twoTo (-k).toNat then k else k - 1

/-- The nearest binary number to the quotient of two positive numbers. -/
def roundQuotient (numerator denominator : Nat) : Int × Int :=
  -- The first of 53 digits has the exponent of the quotient, and none has one below -1074.
  let exponent := max (floorLog numerator denominator - 52) (-1074)
  (divideToEven (numerator * twoTo (-exponent).toNat) (denominator * twoTo exponent.toNat),
    exponent)

/-- The number that digits times a power of ten stand for. -/
def roundDecimal (negative : Bool) (digits : Nat) (exponent : Int) : Rounded :=
  let magnitude : Int := (toString digits).length + exponent
  -- Numbers beyond these bounds are zero or infinite, whatever their digits are.
  if digits = 0 ∨ magnitude < -400 then .finite 0 0
  else if magnitude > 400 then .infinite
  else
    let (significand, power) :=
      roundQuotient (digits * Nat.pow 10 exponent.toNat) (Nat.pow 10 (-exponent).toNat)
    if power + 53 > 1024 ∨ (power + 53 = 1024 ∧ significand ≥ twoTo 53) then .infinite
    else .finite (if negative then -significand else significand) power

def Real.rounded : Real → Rounded
  | notANumber => .notANumber
  | infinity _ => .infinite
  | decimal negative digits exponent => roundDecimal negative digits exponent

/-- The value of a number, if it is an integer. -/
def Rounded.integer? : Rounded → Option Int
  | finite significand exponent =>
    if 0 ≤ exponent then some (significand * twoTo exponent.toNat)
    else if significand % twoTo (-exponent).toNat = 0 then
      some (significand / twoTo (-exponent).toNat)
    else none
  | _ => none

end TwinNode.Json
