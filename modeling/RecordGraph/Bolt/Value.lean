import RecordGraph.Json.Printer
import RecordGraph.Property.Value
import RecordGraph.Store.Error

/-!
# Values on the wire

Properties go to a server as Bolt values and come back in the rows of a result. A row is
read through the JSON form of its one column with properties.
-/

namespace RecordGraph.Bolt

/-- A value as a server sends and takes it. -/
inductive Value
  | null
  | bool (b : Bool)
  | int (i : Int64)
  | float (x : Double)
  | str (s : String)
  | list (items : List Value)
  | map (fields : List (String × Value))
  /-- A value without a JSON form, such as a node or a point in time. -/
  | other
deriving Inhabited

namespace Value

mutual

/-- The JSON form of a value, if every part of it has one. A float that JSON cannot hold
becomes null. -/
def toJson? : Value → Option Json
  | null => some .null
  | bool b => some (.bool b)
  | int i => some (.int (Json.Integer.ofInt64 i))
  | float x => some (Json.ofDouble x)
  | str s => some (.str s)
  | list items => (toItems? items).map .arr
  | map fields => (toFields? [] fields).map .obj
  | other => none

def toItems? : List Value → Option (List Json)
  | [] => some []
  | v :: rest => do
      let j ← toJson? v
      let js ← toItems? rest
      return j :: js

/-- The fields read so far with all others added. -/
def toFields? (read : List (String × Json)) : List (String × Value) →
    Option (List (String × Json))
  | [] => some read
  | (key, v) :: rest => do
      let j ← toJson? v
      toFields? (SortedMap.insert read key j) rest

end

end Value

mutual

/-- The value that a property is sent as. -/
def ofProperty : PropertyValue → Value
  | .bool b => .bool b
  | .int i => .int i
  | .float x => .float x
  | .str s => .str s
  | .list items => .list (ofItems items)
  | .map fields => .map (ofFields fields)

def ofItems : List PropertyValue → List Value
  | [] => []
  | p :: rest => ofProperty p :: ofItems rest

def ofFields : List (String × PropertyValue) → List (String × Value)
  | [] => []
  | (key, p) :: rest => (key, ofProperty p) :: ofFields rest

end

mutual

/-- The value of a JSON text in the script of a server. -/
def ofJson : Json → Value
  | .null => .null
  | .bool b => .bool b
  | .int i =>
      match Numeral.word? i.val with
      | some w => .int w
      | none => .float (Double.ofNat false i.val.toNat)
  | .float x => .float x.toDouble
  | .str s => .str s
  | .arr items => .list (ofJsonItems items)
  | .obj fields => .map (ofJsonFields fields)

def ofJsonItems : List Json → List Value
  | [] => []
  | v :: rest => ofJson v :: ofJsonItems rest

def ofJsonFields : List (String × Json) → List (String × Value)
  | [] => []
  | (key, v) :: rest => (key, ofJson v) :: ofJsonFields rest

end

/-- A row of a result: its columns with their values. -/
abbrev Row := List (String × Value)

/-- The column in which every read returns properties. -/
def propertiesColumn : String := "props"

/-- The properties in a row whose values are shown in JSON form. -/
def Row.properties (present : Value → Option Json) (row : Row) : Except StoreError PropertyMap :=
  match (row.find? (·.1 = propertiesColumn)).map Prod.snd with
  | none => .error (.fatal ("Failed to decode " ++ propertiesColumn ++ ": no such column"))
  | some v =>
      match present v with
      | none => .error (.fatal ("Failed to decode " ++ propertiesColumn ++ ": no such form"))
      | some (.obj fields) => .ok (PropertyMap.ofJson fields)
      | some j =>
          .error (.fatal
            ("Expected a property map in " ++ propertiesColumn ++ ", got " ++ j.compact))

end RecordGraph.Bolt
