import RecordGraph.Double.Rounding

/-!
# The shortest decimal that reads back

Every real number within half a unit of a magnitude rounds to it. `Magnitude.shortest`
finds the decimal with the fewest digits in that interval: on the grid of decimals with
one digit, then two, and so on, it tests the two neighbours of the exact value. The first
grid with a hit decides, and of two hits the nearer one wins, a tie going to the even
digit. All tests are comparisons of whole numbers.
-/

namespace RecordGraph

/-- The number `coefficient * 10 ^ exponent`. -/
structure Decimal where
  coefficient : Nat
  exponent : Int
deriving DecidableEq, Repr

namespace Decimal

/-- Removes the zeros at the end of the coefficient. -/
def strip (coefficient : Nat) (exponent : Int) : Decimal :=
  if zeros : coefficient % 10 = 0 ∧ coefficient ≠ 0 then
    strip (coefficient / 10) (exponent + 1)
  else ⟨coefficient, exponent⟩
termination_by coefficient
decreasing_by exact Nat.div_lt_self (Nat.pos_of_ne_zero zeros.2) (by decide)

/-- The exponent of ten of the leading digit. -/
def leading (x : Decimal) : Int := x.exponent + Numeral.length x.coefficient - 1

/-- The digits before and after the decimal point, the first never empty. -/
def positional (x : Decimal) : List Char × List Char :=
  let digits := Numeral.digits x.coefficient
  if 0 ≤ x.exponent then (digits ++ List.replicate x.exponent.toNat '0', [])
  else
    let places := (-x.exponent).toNat
    if digits.length ≤ places then
      (['0'], List.replicate (places - digits.length) '0' ++ digits)
    else (digits.take (digits.length - places), digits.drop (digits.length - places))

end Decimal

/-- The exponent of ten of the leading digit of a positive quotient. -/
def leadingPlace (numerator denominator : Nat) : Int :=
  if denominator ≤ numerator then Numeral.length (numerator / denominator) - 1
  else -(Numeral.length ((denominator + numerator - 1) / numerator - 1) : Int)

namespace Magnitude

/-- The interval of reals that round to a magnitude, in quarters of its last bit: below a
power of two the neighbour is only half a bit away. -/
def roundingInterval (f : BinaryFormat) (x : Magnitude) : Nat × Nat :=
  if x.significand = Nat.pow 2 (f.precision - 1) ∧ f.minExponent < x.exponent then
    (4 * x.significand - 1, 4 * x.significand + 2)
  else (4 * x.significand - 2, 4 * x.significand + 2)

/-- Whether `coefficient * 10 ^ place` rounds to the magnitude. The ends of the interval
count exactly when the significand is even. -/
def roundsTo (f : BinaryFormat) (x : Magnitude) (coefficient : Nat) (place : Int) : Bool :=
  let (low, high) := x.roundingInterval f
  let (decimal, unit) := scaledQuotient 10 coefficient 1 (-place)
  let (scaled, quarter) := scaledQuotient 2 decimal unit (x.exponent - 2)
  let (least, value, greatest) := (low * quarter, scaled, high * quarter)
  if x.significand % 2 = 0 then least ≤ value && value ≤ greatest
  else least < value && value < greatest

/-- The decimal with the given number of digits that rounds to the magnitude and is
nearest to it, if there is one. -/
def candidate (f : BinaryFormat) (x : Magnitude) (count : Nat) : Option Decimal :=
  let (numerator, denominator) := x.quotient
  let place := leadingPlace numerator denominator - (count : Int) + 1
  let (scaled, unit) := scaledQuotient 10 numerator denominator place
  let below := scaled / unit
  match x.roundsTo f below place, x.roundsTo f (below + 1) place with
  | false, false => none
  | true, false => some (Decimal.strip below place)
  | false, true => some (Decimal.strip (below + 1) place)
  | true, true => some (Decimal.strip (roundHalfEven scaled unit) place)

/-- The shortest decimal that rounds to a positive magnitude; seventeen digits always
suffice in double format. -/
def shortest (f : BinaryFormat) (x : Magnitude) : Decimal :=
  if x.significand = 0 then ⟨0, 0⟩
  else ((List.range 17).findSome? fun n => x.candidate f (n + 1)).getD ⟨0, 0⟩

end Magnitude

end RecordGraph
