import RecordGraph.Json.Value
import RecordGraph.Double.Rounding

/-!
# Property values

The values that nodes and edges carry. Coming from JSON, nulls vanish at every depth and a
whole number beyond 63 bits becomes the nearest double.
-/

namespace RecordGraph

/-- The value of a property. -/
inductive PropertyValue
  | bool (b : Bool)
  | int (i : Int64)
  | float (x : Double)
  | str (s : String)
  | list (items : List PropertyValue)
  | map (fields : List (String × PropertyValue))
deriving Repr, Inhabited

/-- Properties by name. -/
abbrev PropertyMap := SortedMap String PropertyValue

namespace PropertyValue

mutual

/-- Equality of values: floats compare as numbers, so not-a-number equals nothing and the
zeros are equal; a whole number never equals a float. -/
def equal : PropertyValue → PropertyValue → Bool
  | bool a, bool b => a == b
  | int a, int b => a == b
  | float a, float b => a.equal b
  | str a, str b => a == b
  | list as, list bs => equalItems as bs
  | map as, map bs => equalFields as bs
  | _, _ => false

def equalItems : List PropertyValue → List PropertyValue → Bool
  | [], [] => true
  | a :: as, b :: bs => equal a b && equalItems as bs
  | _, _ => false

def equalFields : List (String × PropertyValue) → List (String × PropertyValue) → Bool
  | [], [] => true
  | (k, a) :: as, (l, b) :: bs => k == l && equal a b && equalFields as bs
  | _, _ => false

end

def asText? : PropertyValue → Option String
  | str s => some s
  | _ => none

def asInt? : PropertyValue → Option Int64
  | int i => some i
  | _ => none

def asBool? : PropertyValue → Option Bool
  | bool b => some b
  | _ => none

/-- A whole number as a property. -/
def ofInteger (i : Json.Integer) : PropertyValue :=
  match Numeral.word? i.val with
  | some w => int w
  | none => float (Double.ofNat false i.val.toNat)

mutual

/-- The property that a JSON value stands for; `null` stands for none. -/
def ofJson? : Json → Option PropertyValue
  | .null => none
  | .bool b => some (bool b)
  | .int i => some (ofInteger i)
  | .float x => some (float x.toDouble)
  | .str s => some (str s)
  | .arr items => some (list (ofItems items))
  | .obj fields => some (map (SortedMap.ofList (ofFields fields)))

/-- The items that are not null. -/
def ofItems : List Json → List PropertyValue
  | [] => []
  | v :: rest =>
      match ofJson? v with
      | some p => p :: ofItems rest
      | none => ofItems rest

/-- The fields that are not null. -/
def ofFields : List (String × Json) → List (String × PropertyValue)
  | [] => []
  | (key, v) :: rest =>
      match ofJson? v with
      | some p => (key, p) :: ofFields rest
      | none => ofFields rest

end

mutual

/-- A property as a JSON value; a float without a JSON form becomes `null`. -/
def toJson : PropertyValue → Json
  | bool b => .bool b
  | int i => .int (Json.Integer.ofInt64 i)
  | float x => Json.ofDouble x
  | str s => .str s
  | list items => .arr (toItems items)
  | map fields => .obj (toFields fields)

def toItems : List PropertyValue → List Json
  | [] => []
  | p :: rest => toJson p :: toItems rest

def toFields : List (String × PropertyValue) → List (String × Json)
  | [] => []
  | (key, p) :: rest => (key, toJson p) :: toFields rest

end

end PropertyValue

namespace PropertyMap

/-- Equality of property maps, value by value. -/
def equal (a b : PropertyMap) : Bool := PropertyValue.equalFields a b

/-- The fields of a JSON object as properties, without the nulls. -/
def ofJson (fields : List (String × Json)) : PropertyMap :=
  SortedMap.ofList (PropertyValue.ofFields fields)

def toJson (m : PropertyMap) : Json := .obj (PropertyValue.toFields m)

end PropertyMap

/-- Why a record has no properties. -/
inductive PropertyError
  /-- The record is a value of another kind than an object. -/
  | notAMap (kind : String)
  | numberOutOfRange
  | keyNotText
  | keyNotFinite
deriving DecidableEq, Repr

namespace PropertyError

/-- What is wrong with the JSON form of a record, if it has none. -/
def cause? : PropertyError → Option String
  | notAMap _ => none
  | numberOutOfRange => some "number out of range"
  | keyNotText => some "key must be a string"
  | keyNotFinite => some "float key must be finite (got NaN or +/-inf)"

def message (e : PropertyError) : String :=
  match e with
  | notAMap kind => "Property coercion error: record must serialize to a map, got " ++ kind
  | e => "Serialization error: " ++ e.cause?.getD ""

end PropertyError

end RecordGraph
