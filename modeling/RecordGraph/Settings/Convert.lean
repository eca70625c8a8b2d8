import RecordGraph.Double.Text
import RecordGraph.Settings.Basic
import RecordGraph.Settings.Node
import RecordGraph.Text.Quoted

/-!
# Settings from trees

A tree of settings becomes the settings that it stands for. A text may stand for a number
and a number for a text, as far as that makes sense.
-/

namespace RecordGraph

namespace Settings

/-- Why settings cannot be loaded. -/
inductive LoadError
  /-- The file is not in its format. -/
  | unreadable
  /-- A value cannot be converted. -/
  | conversion (got : Node) (want : String) (key : String) (origin : Option String)
  /-- A number does not fit. -/
  | tooLarge (got : Nat) (want : String) (key : String)
  /-- A record stands as something else. -/
  | mismatch (got : Node) (want : String)
  | missingField (name : String)
  | invalidLength (length : Nat) (want : String)

namespace LoadError

/-- How a value is called that cannot be converted. -/
def described : Node → String
  | .leaf _ .nil => "unit value"
  | .leaf _ (.bool b) => "boolean `" ++ (if b then "true" else "false") ++ "`"
  | .leaf _ (.int i) => "64-bit integer `" ++ Numeral.text i.toInt ++ "`"
  | .leaf _ (.float x) => "floating point `" ++ x.plain ++ "`"
  | .leaf _ (.str s) => "string " ++ Text.quoted s
  | .arr _ _ => "sequence"
  | .table _ _ => "map"

/-- The plain notation of a double with a decimal point in it, if it is finite. -/
def pointed (x : Double) : String :=
  if x.isFinite ∧ ¬ x.plain.toList.contains '.' then x.plain ++ ".0" else x.plain

/-- How a value is called that stands in the place of a record. -/
def misplaced : Node → String
  | .leaf _ (.int i) => "integer `" ++ Numeral.text i.toInt ++ "`"
  | .leaf _ (.float x) => "floating point `" ++ pointed x ++ "`"
  | v => described v

/-- The end of a message about a value. -/
def whereabouts (key : String) (origin : Option String) : String :=
  (if key.isEmpty then "" else " for key `" ++ key ++ "`")
    ++ match origin with
      | some origin => " in " ++ origin
      | none => ""

def message : LoadError → String
  | unreadable => "unreadable file"
  | conversion got want key origin =>
      "invalid type: " ++ described got ++ ", expected " ++ want ++ whereabouts key origin
  | tooLarge got want key =>
      "invalid type: 64-bit unsigned integer `" ++ toString got ++ "`, expected " ++ want
        ++ whereabouts key none
  | mismatch got want => "invalid type: " ++ misplaced got ++ ", expected " ++ want
  | missingField name => "missing field `" ++ name ++ "`"
  | invalidLength length want =>
      "invalid length " ++ toString length ++ ", expected " ++ want

/-- The key of a value inside another. -/
def joined (outer : Step) (inner : String) : String :=
  match outer with
  | .key name =>
      if inner.isEmpty || inner.startsWith "[" then name ++ inner else name ++ "." ++ inner
  | .index i => "[" ++ toString i ++ "]" ++ inner

/-- The error of a value inside another. -/
def within (place : Step) : LoadError → LoadError
  | conversion got want key origin => conversion got want (joined place key) origin
  | tooLarge got want key => tooLarge got want (joined place key)
  | e => e

end LoadError

namespace Node

def origin : Node → Option String
  | leaf origin _ | arr origin _ | table origin _ => origin

/-- A text; numbers and truth values are written out. -/
def toText : Node → Except LoadError String
  | leaf _ (.str s) => .ok s
  | leaf _ (.bool b) => .ok (if b then "true" else "false")
  | leaf _ (.int i) => .ok (Numeral.text i.toInt)
  | leaf _ (.float x) => .ok x.plain
  | v => .error (.conversion v "a string" "" v.origin)

/-- The number that a text stands for. -/
def numberOfText? (s : String) : Option Nat :=
  let word := String.ofList (s.toList.map Char.toLower)
  if word = "true" ∨ word = "on" ∨ word = "yes" then some 1
  else if word = "false" ∨ word = "off" ∨ word = "no" then some 0
  else (Numeral.unsigned? s.toList).bind fun n => if n < 0x10000000000000000 then some n else none

/-- A natural number of at most 64 bits. Fractions are rounded, half of one away from zero,
and what lies outside the range goes to its end. -/
def toUnsigned : Node → Except LoadError Nat
  | leaf origin (.int i) =>
      if 0 ≤ i.toInt then .ok i.toInt.toNat
      else .error (.conversion (leaf origin (.int i)) "an unsigned 64 bit or less integer" ""
        origin)
  | leaf origin (.str s) =>
      match numberOfText? s with
      | some n => .ok n
      | none => .error (.conversion (leaf origin (.str s)) "an integer" "" origin)
  | leaf _ (.bool b) => .ok (if b then 1 else 0)
  | leaf _ (.float x) => .ok x.toUnsigned
  | v => .error (.conversion v "an integer" "" v.origin)

def toUInt32 (v : Node) : Except LoadError UInt32 := do
  let n ← v.toUnsigned
  if n < 0x100000000 then .ok (UInt32.ofNat n)
  else .error (.tooLarge n "an unsigned 32 bit integer" "")

def toUInt64 (v : Node) : Except LoadError UInt64 := v.toUnsigned.map UInt64.ofNat

/-- A value, or none if it is nil. -/
def optional (convert : Node → Except LoadError α) : Node → Except LoadError (Option α)
  | leaf _ .nil => .ok none
  | v => (convert v).map some

/-- The fields of a record by name and position: a table has names, an array positions. -/
def slots (title : String) : Node → Except LoadError (String → Nat → Option (Step × Node))
  | table _ fields => .ok fun name _ => (SortedMap.get? fields name).map (.key name, ·)
  | arr _ items => .ok fun _ i => items[i]?.map (.index i, ·)
  | v => .error (.mismatch v title)

/-- Converts the value in a slot. -/
def fill (slot : Option (Step × Node)) (convert : Node → Except LoadError α) :
    Except LoadError (Option α) :=
  match slot with
  | none => .ok none
  | some (place, v) => ((convert v).mapError (·.within place)).map some

/-- Converts all items of an array. -/
def convertFrom (convert : Node → Except LoadError α) : Nat → List Node →
    Except LoadError (List α)
  | _, [] => .ok []
  | index, v :: rest => do
      let a ← (convert v).mapError (·.within (.index index))
      return a :: (← convertFrom convert (index + 1) rest)

def toList (convert : Node → Except LoadError α) : Node → Except LoadError (List α)
  | arr _ items => convertFrom convert 0 items
  | v => .error (.mismatch v "a sequence")

/-- What is wrong with a record that lacks a field. -/
def lacks (v : Node) (name : String) (index : Nat) (want : String) : LoadError :=
  match v with
  | arr _ _ => .invalidLength index want
  | _ => .missingField name

def toDescriptor (v : Node) : Except LoadError Descriptor := do
  let slot ← v.slots "struct EntityDescriptor"
  let entityType ← fill (slot "entity_type" 0) toText
  let label ← fill (slot "label" 1) toText
  let want := "struct EntityDescriptor with 2 elements"
  match entityType, label with
  | some entityType, some label => return ⟨entityType, label⟩
  | none, _ => .error (v.lacks "entity_type" 0 want)
  | _, none => .error (v.lacks "label" 1 want)

def toServerSettings (v : Node) : Except LoadError ServerSettings := do
  let preset := ServerSettings.default
  let slot ← v.slots "struct GraphConfig"
  return {
    uri := (← fill (slot "uri" 0) toText).getD preset.uri
    user := (← fill (slot "user" 1) toText).getD preset.user
    password := (← fill (slot "password" 2) toText).getD preset.password
    database := (← fill (slot "database" 3) (optional toText)).getD preset.database
    maxConnections := (← fill (slot "max_connections" 4) toUInt32).getD preset.maxConnections
    fetchSize := (← fill (slot "fetch_size" 5) toUInt64).getD preset.fetchSize }

def toWriterSettings (v : Node) : Except LoadError WriterSettings := do
  let preset := WriterSettings.default
  let slot ← v.slots "struct WriterConfig"
  return {
    maxRetries := (← fill (slot "max_retries" 0) toUInt32).getD preset.maxRetries
    timeoutMillis :=
      (← fill (slot "transaction_timeout_ms" 1) (optional toUInt64)).getD preset.timeoutMillis
    backoffMillis := (← fill (slot "retry_backoff_ms" 2) toUInt64).getD preset.backoffMillis }

def toSettings (v : Node) : Except LoadError Settings := do
  let slot ← v.slots "struct MetagraphConfig"
  let entityTypes ← fill (slot "entity_types" 2) (toList toDescriptor)
  let server ← fill (slot "neo4j" 0) toServerSettings
  let writer ← fill (slot "writer" 1) toWriterSettings
  return ⟨server.getD .default, writer.getD .default, entityTypes.getD []⟩

end Node

end Settings

end RecordGraph
