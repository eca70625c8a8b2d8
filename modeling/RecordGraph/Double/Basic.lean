/-!
# Double-precision numbers as bit patterns

A double is its 64 bits: a sign, eleven exponent bits and fifty-two fraction bits. The
numeric meaning of a finite pattern is a whole number times a power of two, which is all
that reading, writing and comparing need; no operation of the machine is used.
-/

namespace RecordGraph

/-- A double-precision number, given by its bit pattern. -/
structure Double where
  bits : UInt64
deriving DecidableEq, Repr

/-- The number `significand * 2 ^ exponent`. -/
structure Magnitude where
  significand : Nat
  exponent : Int
deriving DecidableEq, Repr

namespace Double

/-- The weight of the sign bit: two to the 63rd power. -/
def signUnit : Nat := 0x8000000000000000

/-- The weight of the lowest bit of the exponent: two to the 52nd power. -/
def exponentUnit : Nat := 0x10000000000000

/-- Whether the sign bit is set, also for zero and for not-a-number. -/
def isNegative (x : Double) : Bool := signUnit ≤ x.bits.toNat

/-- The eleven bits after the sign. -/
def exponentField (x : Double) : Nat := x.bits.toNat / exponentUnit % 0x800

/-- The last fifty-two bits. -/
def fractionField (x : Double) : Nat := x.bits.toNat % exponentUnit

def isFinite (x : Double) : Bool := x.exponentField != 2047

def isNaN (x : Double) : Bool := x.exponentField == 2047 && x.fractionField != 0

def isInfinite (x : Double) : Bool := x.exponentField == 2047 && x.fractionField == 0

def isZero (x : Double) : Bool := x.exponentField == 0 && x.fractionField == 0

/-- The absolute value of a finite double. -/
def magnitude (x : Double) : Magnitude :=
  if x.exponentField = 0 then ⟨x.fractionField, -1074⟩
  else ⟨exponentUnit + x.fractionField, (x.exponentField : Int) - 1075⟩

/-- Comparison as numbers: not-a-number differs from everything, itself included, and the
two zeros are equal. -/
def equal (x y : Double) : Bool :=
  !x.isNaN && !y.isNaN && (x.bits == y.bits || (x.isZero && y.isZero))

/-- A pattern with the given sign. -/
def withSign (negative : Bool) (unsigned : Nat) : Double :=
  ⟨UInt64.ofNat (if negative then signUnit + unsigned else unsigned)⟩

def infinity (negative : Bool) : Double := withSign negative (2047 * exponentUnit)

/-- The quiet not-a-number. -/
def nan (negative : Bool) : Double := withSign negative (2047 * exponentUnit + exponentUnit / 2)

/-- The double of a magnitude in double format; none stands for a magnitude that is too
large. A significand of at least the exponent's unit leaves its leading bit to the exponent
field. -/
def ofMagnitude (negative : Bool) : Option Magnitude → Double
  | none => infinity negative
  | some ⟨significand, exponent⟩ =>
      if significand < exponentUnit then withSign negative significand
      else
        withSign negative
          ((exponent + 1075).toNat * exponentUnit + (significand - exponentUnit))

/-- Sixteen lower-case hexadecimal digits, most significant first. -/
def hex (x : Double) : String :=
  let digits := Nat.toDigits 16 x.bits.toNat
  String.ofList (List.replicate (16 - digits.length) '0' ++ digits)

end Double

/-- A double that is neither infinite nor not-a-number. -/
structure FiniteDouble where
  toDouble : Double
  finite : toDouble.isFinite = true
deriving DecidableEq, Repr

end RecordGraph
