import RecordGraph.Json.Reader
import RecordGraph.Settings.Path
import RecordGraph.Toml.Reader

/-!
# Trees of settings

Settings from a file and from the environment are put on top of each other in one tree.
Tables are merged key by key, everything else replaces what was there. A value remembers
where it comes from; a table that was merged comes from nowhere in particular.
-/

namespace RecordGraph.Settings

/-- A value that holds no other value. -/
inductive Scalar
  | nil
  | bool (b : Bool)
  | int (i : Int64)
  | float (x : Double)
  | str (s : String)
deriving DecidableEq, Repr

/-- A tree of settings with the origin of each value. -/
inductive Node
  | leaf (origin : Option String) (v : Scalar)
  | arr (origin : Option String) (items : List Node)
  | table (origin : Option String) (fields : List (String × Node))
deriving Inhabited

namespace Node

/-- A key in lower case. Only letters that can end up in the name of a setting matter: those
of ASCII, and the Kelvin sign. -/
def lowerKey (key : String) : String :=
  String.ofList (key.toList.map fun c => if c = '\u212a' then 'k' else c.toLower)

mutual

/-- The tree of a JSON value. Whole numbers beyond 63 bits become floats. -/
def ofJson (origin : Option String) : Json → Node
  | .null => leaf origin .nil
  | .bool b => leaf origin (.bool b)
  | .int i =>
      match Numeral.word? i.val with
      | some w => leaf origin (.int w)
      | none => leaf origin (.float (Double.ofNat false i.val.toNat))
  | .float x => leaf origin (.float x.toDouble)
  | .str s => leaf origin (.str s)
  | .arr items => arr origin (ofJsonItems origin items)
  | .obj fields => table origin (ofJsonFields origin fields)

def ofJsonItems (origin : Option String) : List Json → List Node
  | [] => []
  | v :: rest => ofJson origin v :: ofJsonItems origin rest

def ofJsonFields (origin : Option String) : List (String × Json) → List (String × Node)
  | [] => []
  | (key, v) :: rest => (key, ofJson origin v) :: ofJsonFields origin rest

end

mutual

/-- The tree of a TOML value. -/
def ofToml (origin : Option String) : Toml → Node
  | .bool b => leaf origin (.bool b)
  | .int i => leaf origin (.int i)
  | .float x => leaf origin (.float x)
  | .str s => leaf origin (.str s)
  | .arr items | .tables items => arr origin (ofTomlItems origin items)
  | .table _ fields => table origin (ofTomlFields origin fields)

def ofTomlItems (origin : Option String) : List Toml → List Node
  | [] => []
  | v :: rest => ofToml origin v :: ofTomlItems origin rest

def ofTomlFields (origin : Option String) : List (String × Toml) → List (String × Node)
  | [] => []
  | (key, v) :: rest => (key, ofToml origin v) :: ofTomlFields origin rest

end

/-- The fields of a table; everything else gives way to an empty table. -/
def tableFields : Node → Option String × List (String × Node)
  | table origin fields => (origin, fields)
  | _ => (none, [])

/-- The items of an array; everything else gives way to an empty array. -/
def arrayItems : Node → Option String × List Node
  | arr origin items => (origin, items)
  | _ => (none, [])

def nothing : Node := leaf none .nil

mutual

/-- Puts a value under a key of a table. A table is merged into the table that stands there. -/
def setKey (key : String) (target : Node) : Node → Node
  | table _ extra =>
      let (origin, fields) := target.tableFields
      let inner := (SortedMap.get? fields (lowerKey key)).getD (table none [])
      table origin (SortedMap.insert fields (lowerKey key) (mergeFields inner extra))
  | v =>
      let (origin, fields) := target.tableFields
      table origin (SortedMap.insert fields (lowerKey key) v)

/-- Puts the fields of a table into another. -/
def mergeFields (target : Node) : List (String × Node) → Node
  | [] => target
  | (key, v) :: rest => mergeFields (setKey key target v) rest

end

/-- The place in an array that an index means; negative ones count from the end. -/
def position (index : Int) (length : Nat) : Nat :=
  if 0 ≤ index then index.toNat else length - (-index).toNat

/-- An array that is long enough for a position. -/
def extended (items : List Node) (position : Nat) : List Node :=
  items ++ List.replicate (position + 1 - items.length) nothing

/-- Puts a value at a place inside a tree, making way where something else stands. -/
def setAt (v : Node) (target : Node) : List Step → Node
  | [] => v
  | [.key key] => setKey key target v
  | [.index index] =>
      let (origin, items) := target.arrayItems
      let place := position index items.length
      arr origin ((extended items place).set place v)
  | .key key :: path =>
      let (origin, fields) := target.tableFields
      let inner := (SortedMap.get? fields key).getD nothing
      table origin (SortedMap.insert fields key (setAt v inner path))
  | .index index :: path =>
      let (origin, items) := target.arrayItems
      let place := position index items.length
      let longer := extended items place
      arr origin (longer.set place (setAt v (longer.getD place nothing) path))

/-- Puts a value where a name says; a name that is no path is one key. -/
def put (target : Node) (entry : String × Node) : Node :=
  setAt entry.2 target ((Step.path? entry.1).getD [.key entry.1])

/-- Puts all fields of the sources on top of each other. The tree that results is put into
an empty one once more, after which every key of a merged table is in lower case. -/
def layered (sources : List (List (String × Node))) : List (String × Node) :=
  let merged := sources.flatten.foldl put (table none [])
  (merged.tableFields.2.foldl put (table none [])).tableFields.2

end Node

end RecordGraph.Settings
