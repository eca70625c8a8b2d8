import RecordGraph.Json.Value

/-!
# JSON read as far as it goes

A draft is a text read up to its first fault. Whoever decodes a record walks the draft in the
order of the text, so of a misplaced value and a fault of the text the earlier is reported.
A draft without a fault is a JSON value, except where a part is well formed but stands for
no value.
-/

namespace RecordGraph.Json

/-- A JSON text read up to its first fault. -/
inductive Draft
  | null
  | bool (b : Bool)
  | int (i : Integer)
  | float (x : FiniteDouble)
  | str (s : String)
  /-- An array; one that is not closed ends in the fault. -/
  | arr (items : List Draft) (closed : Bool)
  /-- An object with its keys, in the order of the text and possibly repeated. -/
  | obj (members : List (Draft × Draft)) (closed : Bool)
  /-- Well formed, so that it can be passed over, but without a value: a number that is too
  large, a string with half a surrogate pair, a container too deep inside others. -/
  | unreadable
  | fault
deriving Inhabited

namespace Draft

/-- Whether the text has no fault up to the end of this part. -/
def wellFormed : Draft → Bool
  | arr _ closed | obj _ closed => closed
  | fault => false
  | _ => true

mutual

/-- The value of a draft in which everything can be read. -/
def value? : Draft → Option Json
  | null => some .null
  | bool b => some (.bool b)
  | int i => some (.int i)
  | float x => some (.float x)
  | str s => some (.str s)
  | arr items closed => if closed then (items? items).map .arr else none
  | obj members closed => if closed then (members? [] members).map .obj else none
  | unreadable | fault => none

/-- The values of all items. -/
def items? : List Draft → Option (List Json)
  | [] => some []
  | d :: rest => do
      let v ← value? d
      let values ← items? rest
      return v :: values

/-- The fields read so far with all members added; a later member replaces an earlier one. -/
def members? (read : List (String × Json)) :
    List (Draft × Draft) → Option (List (String × Json))
  | [] => some read
  | (key, d) :: rest =>
      match key, value? d with
      | str name, some v => members? (SortedMap.insert read name v) rest
      | _, _ => none

end

mutual

/-- A value as a draft without a fault. -/
def ofValue : Json → Draft
  | .null => null
  | .bool b => bool b
  | .int i => int i
  | .float x => float x
  | .str s => str s
  | .arr items => arr (ofItems items) true
  | .obj fields => obj (ofFields fields) true

def ofItems : List Json → List Draft
  | [] => []
  | v :: rest => ofValue v :: ofItems rest

def ofFields : List (String × Json) → List (Draft × Draft)
  | [] => []
  | (key, v) :: rest => (str key, ofValue v) :: ofFields rest

end

end Draft

end RecordGraph.Json
