import RecordGraph.SortedMap
import RecordGraph.Double.Basic

/-!
# JSON values

A number is a whole number of at most 64 bits or a finite double; `1` and `1.0` differ. An
object that was read has its fields in increasing order of key, each key once; a record
that is written has them in the order of its declaration.
-/

namespace RecordGraph

/-- The whole numbers that a JSON value can hold: those of 64 bits, signed or unsigned. -/
structure Json.Integer where
  val : Int
  lower : -0x8000000000000000 ≤ val
  upper : val < 0x10000000000000000
deriving DecidableEq, Repr

/-- A JSON value. -/
inductive Json
  | null
  | bool (b : Bool)
  | int (i : Json.Integer)
  | float (x : FiniteDouble)
  | str (s : String)
  | arr (items : List Json)
  | obj (fields : List (String × Json))
deriving Repr, Inhabited

namespace Json

/-- The whole number, if it fits. -/
def Integer.ofInt? (i : Int) : Option Integer :=
  if h : -0x8000000000000000 ≤ i ∧ i < 0x10000000000000000 then some ⟨i, h.1, h.2⟩ else none

/-- A word of 64 bits as a whole number. -/
def Integer.ofInt64 (i : Int64) : Integer where
  val := i.toInt
  lower := Int64.le_toInt i
  upper := by have := Int64.toInt_lt i; omega

/-- A double as a JSON value; JSON has no infinities and no not-a-number. -/
def ofDouble (x : Double) : Json :=
  if h : x.isFinite then float ⟨x, h⟩ else null

/-- A natural number as a JSON value, `null` if it is too large. -/
def ofNat (n : Nat) : Json :=
  match Integer.ofInt? n with
  | some i => int i
  | none => null

/-- The value of an object's field. -/
def field? : Json → String → Option Json
  | obj fields, name => SortedMap.get? fields name
  | _, _ => none

/-- The JSON name of a value's kind. -/
def kind : Json → String
  | null => "null"
  | bool _ => "boolean"
  | int _ | float _ => "number"
  | str _ => "string"
  | arr _ => "array"
  | obj _ => "object"

end Json

end RecordGraph
