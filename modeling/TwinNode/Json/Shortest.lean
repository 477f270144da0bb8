import TwinNode.Json.Binary

/-! A binary number is shown by the fewest decimal digits that are read back as it, and by
the nearest of those. It is written with a point, or with an exponent if the point would be
far from its first digit. -/

namespace TwinNode.Json

structure Decimal where
  digits : Nat
  exponent : Int
  deriving DecidableEq, Repr

/-- The exponent of the first digit of a quotient of two positive numbers. -/
def firstExponent (numerator denominator : Nat) : Int :=
  if denominator ≤ numerator then (toString (numerator / denominator)).length - 1
  else
    let places := (toString (denominator / numerator)).length
    if denominator ≤ numerator * Nat.pow 10 (places - 1) then -(places - 1 : Nat)
    else -(places : Nat)

/-- The decimal number with `count` digits that is nearest to a quotient. -/
def nearestDecimal (numerator denominator count : Nat) : Decimal :=
  let exponent := firstExponent numerator denominator - (count - 1 : Nat)
  ⟨divideToEven (numerator * Nat.pow 10 (-exponent).toNat)
    (denominator * Nat.pow 10 exponent.toNat), exponent⟩

/-- The shortest decimal number that is read back as `significand` times two to the `exponent`. -/
def shortestDecimal (significand : Nat) (exponent : Int) : Decimal :=
  let numerator := significand * twoTo exponent.toNat
  let denominator := twoTo (-exponent).toNat
  -- Seventeen digits are enough for every number.
  let candidates := (List.range 17).map fun i => nearestDecimal numerator denominator (i + 1)
  (candidates.find? fun d => roundDecimal false d.digits d.exponent == .finite
    significand exponent).getD (nearestDecimal numerator denominator 17)

/-- A decimal number with a point, or with an exponent if its first digit is five or more places
behind the point or its last one more than sixteen before it. -/
def Decimal.text (d : Decimal) : String :=
  let digits := ((toString d.digits).toList.reverse.dropWhile (· == '0')).reverse
  let point : Int := (toString d.digits).length + d.exponent
  let zeros (n : Int) := List.replicate n.toNat '0'
  String.ofList <|
    if -4 < point ∧ point ≤ 16 then
      if point ≤ 0 then '0' :: '.' :: zeros (-point) ++ digits
      else
        let fraction := digits.drop point.toNat
        digits.take point.toNat ++ zeros (point - digits.length) ++ '.' ::
          (if fraction.isEmpty then ['0'] else fraction)
    else
      let power := toString (point - 1).natAbs
      digits.take 1 ++ (if digits.length = 1 then [] else '.' :: digits.drop 1) ++
        'e' :: (if point < 1 then '-' else '+') :: zeros (2 - power.length) ++ power.toList

/-- The number a real stands for, as messages show it. -/
def Real.shown (x : Real) : String :=
  match x, x.rounded with
  | .notANumber, _ => "nan"
  | .infinity negative, _ => if negative then "-inf" else "inf"
  | .decimal negative _ _, .finite significand exponent =>
    (if negative then "-" else "") ++
      (if significand = 0 then "0.0" else (shortestDecimal significand.natAbs exponent).text)
  | .decimal negative _ _, _ => if negative then "-inf" else "inf"

end TwinNode.Json
