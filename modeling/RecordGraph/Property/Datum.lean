import RecordGraph.Property.Value
import RecordGraph.Json.Printer

/-!
# Data of a host program

A record may be handed over in any of the forms that a program's values have. Each form has
one JSON value or none; parts are converted in order, and the first that has none decides.
-/

namespace RecordGraph

/-- A value as a program holds it. -/
inductive Datum
  | float64 (x : Double)
  /-- A number of single precision, given as a double. -/
  | float32 (x : Double)
  /-- A whole number of at most 64 bits. -/
  | word (i : Int)
  /-- A whole number of at most 128 bits. -/
  | wide (i : Int)
  | char (c : Char)
  | str (s : String)
  | bool (b : Bool)
  | unit
  | absent
  | present (d : Datum)
  | bytes (values : List UInt8)
  | seq (items : List Datum)
  | map (entries : List (Datum × Datum))
  /-- One of a choice of names. -/
  | choice (name : String)
  /-- One of a choice of names, with a value of its own. -/
  | tagged (name : String) (d : Datum)
deriving Inhabited

namespace Datum

/-- A whole number, if JSON can hold it. -/
def number (i : Int) : Except PropertyError Json :=
  match Json.Integer.ofInt? i with
  | some n => .ok (.int n)
  | none => .error .numberOutOfRange

/-- A finite number as the text of a key: the shortest digits of its own format. -/
def floatKey (f : BinaryFormat) (x : Double) : Except PropertyError String :=
  if x.isFinite then
    let (numerator, denominator) := x.magnitude.quotient
    let magnitude := (f.nearest numerator denominator).getD ⟨0, 0⟩
    let digits := Json.decimalText (magnitude.shortest f)
    .ok (String.ofList (if x.isNegative then '-' :: digits else digits))
  else .error .keyNotFinite

/-- The text of a map's key. -/
def keyText : Datum → Except PropertyError String
  | str s | choice s => .ok s
  | char c => .ok (String.singleton c)
  | bool b => .ok (if b then "true" else "false")
  | word i | wide i => .ok (Numeral.text i)
  | float64 x => floatKey BinaryFormat.double x
  | float32 x => floatKey BinaryFormat.single x
  | _ => .error .keyNotText

mutual

/-- The JSON value of a datum. -/
def toJson : Datum → Except PropertyError Json
  | float64 x | float32 x => .ok (Json.ofDouble x)
  | word i | wide i => number i
  | char c => .ok (.str (String.singleton c))
  | str s | choice s => .ok (.str s)
  | bool b => .ok (.bool b)
  | unit | absent => .ok .null
  | present d => toJson d
  | bytes values => .ok (.arr (values.map fun b => Json.ofNat b.toNat))
  | seq items => (toItems items).map .arr
  | map entries => (toFields [] entries).map .obj
  | tagged name d => (toJson d).map fun v => .obj [(name, v)]

def toItems : List Datum → Except PropertyError (List Json)
  | [] => .ok []
  | d :: rest => do
      let v ← toJson d
      let values ← toItems rest
      return v :: values

/-- The fields written so far with all entries added, later ones replacing earlier ones. -/
def toFields (written : List (String × Json)) :
    List (Datum × Datum) → Except PropertyError (List (String × Json))
  | [] => .ok written
  | (key, d) :: rest => do
      let name ← keyText key
      let v ← toJson d
      toFields (SortedMap.insert written name v) rest

end

end Datum

end RecordGraph
