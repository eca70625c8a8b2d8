/-!
# Decimal numerals

Reading and writing integers in base ten. A signed numeral may start with one sign; an
unsigned one may start with a plus sign only. Neither admits spaces or separators.
-/

namespace RecordGraph.Numeral

/-- The value of a decimal digit. -/
def digit? (c : Char) : Option Nat :=
  if '0' ≤ c ∧ c ≤ '9' then some (c.toNat - '0'.toNat) else none

def isDigit (c : Char) : Bool := (digit? c).isSome

/-- The number that digits spell after the digits that spell `start`; none at a character
that is not a digit. -/
def extend? : Nat → List Char → Option Nat
  | start, [] => some start
  | start, c :: rest => (digit? c).bind fun d => extend? (10 * start + d) rest

/-- The number that a non-empty run of digits spells. -/
def nat? (cs : List Char) : Option Nat := if cs.isEmpty then none else extend? 0 cs

/-- An unsigned numeral: digits, after at most one plus sign. -/
def unsigned? : List Char → Option Nat
  | '+' :: rest => nat? rest
  | cs => nat? cs

/-- A signed numeral: digits, after at most one sign. -/
def signed? : List Char → Option Int
  | '-' :: rest => (nat? rest).map fun n => -(n : Int)
  | cs => (unsigned? cs).map fun n => (n : Int)

/-- The signed word of 64 bits for an integer, if it fits. -/
def word? (i : Int) : Option Int64 :=
  if -0x8000000000000000 ≤ i ∧ i < 0x8000000000000000 then some (Int64.ofInt i) else none

/-- The digits of a number, most significant first. -/
def digits (n : Nat) : List Char := Nat.toDigits 10 n

/-- The number of digits of a number; zero has one. -/
def length (n : Nat) : Nat := (digits n).length

/-- The text of an integer: a minus sign for a negative one, and no leading zeros. -/
def text (i : Int) : String := if i < 0 then "-" ++ toString i.natAbs else toString i.natAbs

end RecordGraph.Numeral
