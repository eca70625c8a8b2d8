import RecordGraph.Json.Value
import RecordGraph.Double.Shortest

/-!
# Writing JSON

The compact form has no blanks; the indented form puts each item and each field on a line
of its own, two spaces deeper than its container. A float is written with the shortest
digits that read back, in positional notation from `0.00001` up to below `1e+16`.
-/

namespace RecordGraph.Json

/-- A non-empty run of digits with a point after the first, unless it is the only one. -/
def pointed : List Char → List Char
  | d :: e :: rest => d :: '.' :: e :: rest
  | digits => digits

/-- The text of a decimal: positional with at least one place when its leading digit stands
between `10 ^ -5` and `10 ^ 15`, otherwise with an exponent that always has its sign. -/
def decimalText (x : Decimal) : List Char :=
  let place := x.leading
  if x.coefficient = 0 then ['0', '.', '0']
  else if -5 ≤ place ∧ place < 16 then
    let (whole, fraction) := x.positional
    whole ++ '.' :: (if fraction.isEmpty then ['0'] else fraction)
  else
    pointed (Numeral.digits x.coefficient) ++ 'e' :: (if place < 0 then '-' else '+')
      :: Numeral.digits place.natAbs

/-- The text of a finite double. -/
def floatText (x : FiniteDouble) : String :=
  let digits := decimalText (x.toDouble.magnitude.shortest BinaryFormat.double)
  String.ofList (if x.toDouble.isNegative then '-' :: digits else digits)

/-- The escaped form of a character inside a string: quotes, backslashes and control
characters are escaped, everything else stands for itself. -/
def escaped (c : Char) : List Char :=
  if c = '"' then ['\\', '"']
  else if c = '\\' then ['\\', '\\']
  else if c = '\x08' then ['\\', 'b']
  else if c = '\x0c' then ['\\', 'f']
  else if c = '\n' then ['\\', 'n']
  else if c = '\r' then ['\\', 'r']
  else if c = '\t' then ['\\', 't']
  else if c.toNat < 32 then
    ['\\', 'u', '0', '0', Nat.digitChar (c.toNat / 16), Nat.digitChar (c.toNat % 16)]
  else [c]

/-- A text as a JSON string. -/
def quoted (s : String) : String := String.ofList ('"' :: s.toList.flatMap escaped ++ ['"'])

/-- The text of a value that holds no other value. -/
def scalarText : Json → String
  | bool b => if b then "true" else "false"
  | int i => Numeral.text i.val
  | float x => floatText x
  | str s => quoted s
  | _ => "null"

mutual

/-- The compact form. -/
def compact : Json → String
  | arr items => "[" ++ ",".intercalate (compactItems items) ++ "]"
  | obj fields => "\x7b" ++ ",".intercalate (compactFields fields) ++ "\x7d"
  | v => scalarText v

def compactItems : List Json → List String
  | [] => []
  | v :: rest => compact v :: compactItems rest

def compactFields : List (String × Json) → List String
  | [] => []
  | (key, v) :: rest => (quoted key ++ ":" ++ compact v) :: compactFields rest

end

/-- The start of a line at the given depth. -/
def newLine (depth : Nat) : String := "\n" ++ String.ofList (List.replicate (2 * depth) ' ')

/-- Lines between the two brackets of a container at the given depth. -/
def block (start stop : String) (depth : Nat) (lines : List String) : String :=
  if lines.isEmpty then start ++ stop
  else start ++ newLine (depth + 1) ++ ("," ++ newLine (depth + 1)).intercalate lines
    ++ newLine depth ++ stop

mutual

/-- The indented form of a value that stands at the given depth. -/
def indentedAt (depth : Nat) : Json → String
  | arr items => block "[" "]" depth (indentedItems (depth + 1) items)
  | obj fields => block "\x7b" "\x7d" depth (indentedFields (depth + 1) fields)
  | v => scalarText v

def indentedItems (depth : Nat) : List Json → List String
  | [] => []
  | v :: rest => indentedAt depth v :: indentedItems depth rest

def indentedFields (depth : Nat) : List (String × Json) → List String
  | [] => []
  | (key, v) :: rest =>
      (quoted key ++ ": " ++ indentedAt depth v) :: indentedFields depth rest

end

/-- The indented form. -/
def indented (v : Json) : String := indentedAt 0 v

end RecordGraph.Json
