import RecordGraph.Urn
import RecordGraph.Json.Draft
import RecordGraph.Json.Printer
import RecordGraph.Text.Quoted

/-!
# Decoding errors

What can be wrong with a JSON text or value that should be a record, and how it is said.
-/

namespace RecordGraph

/-- What stood where something else was expected. -/
inductive Found
  | null
  | bool (b : Bool)
  | int (i : Int)
  | float (x : FiniteDouble)
  | str (s : String)
  | sequence
  | map
deriving DecidableEq, Repr

/-- Why data could not be decoded. -/
inductive DecodeError
  /-- The text is not JSON. -/
  | malformed
  | invalidType (got : Found) (want : String)
  | invalidValue (got : Found) (want : String)
  | invalidLength (length : Nat) (want : String)
  | missingField (name : String)
  | duplicateField (name : String)
  | unknownField (name : String) (known : List String)
  | unknownVariant (name : String) (known : List String)
  /-- The value holds something that no property can be. -/
  | noProperty
  | urn (e : UrnError)
  | durationOverflow
deriving DecidableEq, Repr

/-- What stands at the front of a draft; none if the text fails before that shows. -/
def Found.ofDraft? : Json.Draft → Option Found
  | .null => some .null
  | .bool b => some (.bool b)
  | .int i => some (.int i.val)
  | .float x => some (.float x)
  | .str s => some (.str s)
  | .arr _ _ => some .sequence
  | .obj _ _ => some .map
  | .unreadable | .fault => none

def Found.text : Found → String
  | null => "null"
  | bool b => "boolean `" ++ (if b then "true" else "false") ++ "`"
  | int i => "integer `" ++ Numeral.text i ++ "`"
  | float x => "floating point `" ++ Json.floatText x ++ "`"
  | str s => "string " ++ Text.quoted s
  | sequence => "sequence"
  | map => "map"

namespace DecodeError

/-- The error of a value of the wrong type. -/
def mismatch (d : Json.Draft) (want : String) : DecodeError :=
  match Found.ofDraft? d with
  | some got => invalidType got want
  | none => malformed

/-- The names that were possible. -/
def oneOf : List String → String
  | [a] => "`" ++ a ++ "`"
  | [a, b] => "`" ++ a ++ "` or `" ++ b ++ "`"
  | names => "one of " ++ ", ".intercalate (names.map fun a => "`" ++ a ++ "`")

def message : DecodeError → String
  | malformed => "malformed text"
  | invalidType got want => "invalid type: " ++ got.text ++ ", expected " ++ want
  | invalidValue got want => "invalid value: " ++ got.text ++ ", expected " ++ want
  | invalidLength length want =>
      "invalid length " ++ toString length ++ ", expected " ++ want
  | missingField name => "missing field `" ++ name ++ "`"
  | duplicateField name => "duplicate field `" ++ name ++ "`"
  | unknownField name known =>
      "unknown field `" ++ name ++ "`, expected " ++ oneOf known
  | unknownVariant name known =>
      "unknown variant `" ++ name ++ "`, expected " ++ oneOf known
  | noProperty => "data did not match any variant of untagged enum PropertyValue"
  | urn e => e.message
  | durationOverflow => "overflow deserializing Duration"

end DecodeError

end RecordGraph
