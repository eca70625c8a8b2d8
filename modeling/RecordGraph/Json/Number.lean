import RecordGraph.Json.Draft
import RecordGraph.Double.Rounding

/-!
# Numbers in JSON text

A numeral without point and exponent is a whole number if it fits 64 bits. Every other one
is a double: at most the leading digits that fit 64 bits are kept, and that number is
multiplied or divided by a power of ten, each of the three rounded to nearest. The outcome
can therefore differ from the nearest double in its last digits.
-/

namespace RecordGraph.Json

/-- The parts of a numeral: sign, digits before and after the point, exponent. -/
structure Numeral where
  negative : Bool
  whole : List Char
  fraction : List Char
  exponent : Option Int
deriving Repr

namespace Numeral

/-- A non-empty run of digits at the front, and what follows it. -/
def digits? (cs : List Char) : Option (List Char × List Char) :=
  let run := cs.takeWhile RecordGraph.Numeral.isDigit
  if run.isEmpty then none else some (run, cs.dropWhile RecordGraph.Numeral.isDigit)

/-- The digits before the point, which start with zero only if that is the only one. -/
def whole? (cs : List Char) : Option (List Char × List Char) :=
  match digits? cs with
  | some ('0' :: _ :: _, _) => none
  | found => found

/-- The digits after the point; none of them without a point. -/
def fraction? : List Char → Option (List Char × List Char)
  | '.' :: rest => digits? rest
  | cs => some ([], cs)

/-- The exponent after its mark, if there is a mark. -/
def exponent? : List Char → Option (Option Int × List Char)
  | [] => some (none, [])
  | e :: cs =>
      if e = 'e' ∨ e = 'E' then do
        let (negative, cs) := match cs with
          | '-' :: rest => (true, rest)
          | '+' :: rest => (false, rest)
          | _ => (false, cs)
        let (run, rest) ← digits? cs
        let size ← RecordGraph.Numeral.nat? run
        return (some (if negative then -(size : Int) else size), rest)
      else some (none, e :: cs)

/-- The numeral at the front of a text, and what follows it. -/
def scan? (cs : List Char) : Option (Numeral × List Char) := do
  let (negative, cs) := match cs with
    | '-' :: rest => (true, rest)
    | _ => (false, cs)
  let (whole, cs) ← whole? cs
  let (fraction, cs) ← fraction? cs
  let (exponent, cs) ← exponent? cs
  return (⟨negative, whole, fraction, exponent⟩, cs)

/-- The number spelled by `start` and as many of the digits as fit 64 bits, with the number
of digits left over. -/
def absorb : Nat → List Char → Nat × Nat
  | start, [] => (start, 0)
  | start, c :: rest =>
      let next := 10 * start + (RecordGraph.Numeral.digit? c).getD 0
      if next < 0x10000000000000000 then absorb next rest else (start, (c :: rest).length)

/-- A power of ten up to the 308th as a magnitude of double format. -/
def powerOfTen (k : Nat) : Magnitude :=
  (BinaryFormat.double.nearest (Nat.pow 10 k) 1).getD ⟨0, 0⟩

/-- A magnitude times a power of ten, rounded; none if it is too large. -/
def scale? (x : Magnitude) (exponent : Int) : Option Magnitude :=
  if x.significand = 0 then some x
  else if 308 < exponent then none
  else if 0 ≤ exponent then BinaryFormat.double.mul x (powerOfTen exponent.toNat)
  else if -308 ≤ exponent then BinaryFormat.double.div x (powerOfTen (-exponent).toNat)
  else
    (BinaryFormat.double.div x (powerOfTen 308)).bind fun y => scale? y (exponent + 308)
termination_by (-exponent).toNat
decreasing_by omega

/-- The double of a numeral; none if it is too large. -/
def double? (n : Numeral) : Option Double :=
  let (head, dropped) := absorb 0 n.whole
  let (significand, unused) := absorb head n.fraction
  let places := (n.fraction.length : Int) - unused
  let exponent := (dropped : Int) - places + n.exponent.getD 0
  ((BinaryFormat.double.nearest significand 1).bind (scale? · exponent)).map fun x =>
    Double.ofMagnitude n.negative (some x)

/-- The whole number of a numeral without point and exponent. A negative one must be
signed, and zero with a sign is a double. -/
def integer? (n : Numeral) : Option Integer :=
  if n.fraction.isEmpty ∧ n.exponent.isNone then do
    let size ← RecordGraph.Numeral.nat? n.whole
    if n.negative ∧ size = 0 then none
    else Integer.ofInt? (if n.negative then -(size : Int) else size)
  else none

/-- The number that a numeral stands for. -/
def draft (n : Numeral) : Draft :=
  match integer? n with
  | some i => .int i
  | none =>
      match double? n with
      | some x => if h : x.isFinite then .float ⟨x, h⟩ else .unreadable
      | none => .unreadable

end Numeral

end RecordGraph.Json
