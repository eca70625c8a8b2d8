import RecordGraph.Numeral
import RecordGraph.Double.Basic

/-!
# Rounding to a binary format

`BinaryFormat.nearest` takes a quotient of whole numbers to the nearest magnitude of a
binary format, a tie to the even significand. Decimal numbers, products and quotients are
rounded through it, so each is correct to the last bit.
-/

namespace RecordGraph

/-- A binary floating format: the bits of its significands, and the least and the greatest
exponent of a significand's last bit. -/
structure BinaryFormat where
  precision : Nat
  minExponent : Int
  maxExponent : Int
deriving DecidableEq, Repr

/-- The quotient rounded to a whole number, a half to the even neighbour. -/
def roundHalfEven (numerator denominator : Nat) : Nat :=
  let floor := numerator / denominator
  let rest := numerator % denominator
  if 2 * rest < denominator then floor
  else if denominator < 2 * rest then floor + 1
  else floor + floor % 2

/-- The quotient `numerator / (denominator * base ^ exponent)` as two whole numbers. -/
def scaledQuotient (base numerator denominator : Nat) (exponent : Int) : Nat × Nat :=
  if 0 ≤ exponent then (numerator, denominator * Nat.pow base exponent.toNat)
  else (numerator * Nat.pow base (-exponent).toNat, denominator)

namespace Magnitude

/-- A magnitude as a quotient of whole numbers. -/
def quotient (x : Magnitude) : Nat × Nat :=
  if 0 ≤ x.exponent then (x.significand * Nat.pow 2 x.exponent.toNat, 1)
  else (x.significand, Nat.pow 2 (-x.exponent).toNat)

end Magnitude

namespace BinaryFormat

def double : BinaryFormat := ⟨53, -1074, 971⟩

def single : BinaryFormat := ⟨24, -149, 104⟩

/-- The exponent of the last bit with which a positive quotient is written: as small as
the precision allows, and never below the least exponent. -/
def lastBit (f : BinaryFormat) (numerator denominator : Nat) : Int :=
  let coarse := max f.minExponent
    ((numerator.log2 : Int) - denominator.log2 - f.precision + 1)
  let (scaled, unit) := scaledQuotient 2 numerator denominator coarse
  if f.minExponent < coarse ∧ scaled / unit < Nat.pow 2 (f.precision - 1) then coarse - 1
  else coarse

/-- The magnitude of the format nearest to a quotient; none when it lies beyond the range. -/
def nearest (f : BinaryFormat) (numerator denominator : Nat) : Option Magnitude :=
  if numerator = 0 then some ⟨0, f.minExponent⟩
  else
    let exponent := f.lastBit numerator denominator
    let (scaled, unit) := scaledQuotient 2 numerator denominator exponent
    let significand := roundHalfEven scaled unit
    let rounded : Magnitude :=
      if significand < Nat.pow 2 f.precision then ⟨significand, exponent⟩
      else ⟨significand / 2, exponent + 1⟩
    if rounded.exponent ≤ f.maxExponent then some rounded else none

/-- The magnitude nearest to `coefficient * 10 ^ exponent`. Outside four hundred places on
either side of the point the outcome is decided by the size alone. -/
def ofDecimal (f : BinaryFormat) (coefficient : Nat) (exponent : Int) : Option Magnitude :=
  let size := (Numeral.length coefficient : Int) + exponent
  if coefficient = 0 ∨ size < -400 then some ⟨0, f.minExponent⟩
  else if 400 < size then none
  else
    let (numerator, denominator) := scaledQuotient 10 coefficient 1 (-exponent)
    f.nearest numerator denominator

/-- The product rounded to the format. -/
def mul (f : BinaryFormat) (x y : Magnitude) : Option Magnitude :=
  let (a, b) := x.quotient
  let (c, d) := y.quotient
  f.nearest (a * c) (b * d)

/-- The quotient rounded to the format, for a divisor that is not zero. -/
def div (f : BinaryFormat) (x y : Magnitude) : Option Magnitude :=
  let (a, b) := x.quotient
  let (c, d) := y.quotient
  f.nearest (a * d) (b * c)

end BinaryFormat

namespace Double

/-- The double nearest to a whole number. -/
def ofNat (negative : Bool) (n : Nat) : Double :=
  ofMagnitude negative (BinaryFormat.double.nearest n 1)

/-- The double nearest to a decimal number; beyond the range it is an infinity. -/
def ofDecimal (negative : Bool) (coefficient : Nat) (exponent : Int) : Double :=
  ofMagnitude negative (BinaryFormat.double.ofDecimal coefficient exponent)

/-- The double with the value of a magnitude of single format, which double format always
holds exactly. -/
def widen (negative : Bool) : Option Magnitude → Double
  | none => infinity negative
  | some x =>
      let (numerator, denominator) := x.quotient
      ofMagnitude negative (BinaryFormat.double.nearest numerator denominator)

/-- Rounds half away from zero to a whole number and keeps it within 64 unsigned bits;
negative numbers and not-a-number give zero. -/
def toUnsigned (x : Double) : Nat :=
  if x.isNaN || x.isNegative then 0
  else if x.isInfinite then 0x10000000000000000 - 1
  else
    let (numerator, denominator) := x.magnitude.quotient
    min ((2 * numerator + denominator) / (2 * denominator)) (0x10000000000000000 - 1)

end Double

end RecordGraph
