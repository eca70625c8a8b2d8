import RecordGraph.Double.Shortest

/-!
# Doubles as plain text

The plain notation writes the shortest digits in full, without an exponent and without a
point for a whole number. The reader takes a sign, digits around an optional point and an
optional exponent, and the names of infinity and not-a-number in any case.
-/

namespace RecordGraph.Double

/-- The digits of the absolute value of a finite double. -/
def decimal (x : Double) : Decimal := x.magnitude.shortest BinaryFormat.double

/-- Plain notation: `1`, `0.25`, `-0`, `inf`, `NaN`. -/
def plain (x : Double) : String :=
  if x.isNaN then "NaN"
  else
    let sign := if x.isNegative then "-" else ""
    if x.isInfinite then sign ++ "inf"
    else
      let (whole, fraction) := x.decimal.positional
      sign ++ String.ofList (if fraction.isEmpty then whole else whole ++ '.' :: fraction)

/-- The names of the numbers that have no digits, compared without regard to case. -/
def named? (negative : Bool) (cs : List Char) : Option Double :=
  let name := String.ofList (cs.map Char.toLower)
  if name = "inf" ∨ name = "infinity" then some (infinity negative)
  else if name = "nan" then some (nan negative)
  else none

/-- The coefficient and the exponent of a numeral without sign: digits on at least one
side of the point, then an optional exponent. -/
def numeral? (cs : List Char) : Option (Nat × Int) := do
  let whole := cs.takeWhile Numeral.isDigit
  let rest := cs.dropWhile Numeral.isDigit
  let (fraction, rest) := match rest with
    | '.' :: rest => (rest.takeWhile Numeral.isDigit, rest.dropWhile Numeral.isDigit)
    | _ => ([], rest)
  let coefficient ← Numeral.nat? (whole ++ fraction)
  match rest with
  | [] => some (coefficient, -(fraction.length : Int))
  | e :: exponent =>
      if e = 'e' ∨ e = 'E' then
        (Numeral.signed? exponent).map fun shift => (coefficient, shift - fraction.length)
      else none

/-- The sign of a text, where a minus sign is true, and what follows it. -/
def signed : List Char → Bool × List Char
  | '-' :: rest => (true, rest)
  | '+' :: rest => (false, rest)
  | cs => (false, cs)

/-- The number that a text names, where digits are rounded as told. -/
def ofTextBy? (round : Bool → Nat → Int → Double) (text : String) : Option Double :=
  let (negative, cs) := signed text.toList
  match numeral? cs with
  | some (coefficient, exponent) => some (round negative coefficient exponent)
  | none => named? negative cs

/-- The double that a text names, rounded to nearest. -/
def ofText? (text : String) : Option Double := ofTextBy? ofDecimal text

/-- The number of single format that a text names, as a double. -/
def ofSingleText? (text : String) : Option Double :=
  ofTextBy? (fun negative coefficient exponent =>
    widen negative (BinaryFormat.single.ofDecimal coefficient exponent)) text

end RecordGraph.Double
