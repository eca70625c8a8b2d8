import RecordGraph.Decode.Error

/-!
# Decoding by shape

A shape lists the fields of a record with the decoder of each. A record stands as an object
or as an array of its fields in order. Members are decoded in the order of the text and the
first failure is the error; what is missing is found at the end, in the order of the shape.
-/

namespace RecordGraph

open Json (Draft)

/-- Whether a draft was read from text, or is a value that was read before. -/
inductive Source
  | text
  | value
deriving DecidableEq, Repr

/-- Decodes a part of a draft. -/
abbrev Decoder (α : Type) := Source → Draft → Except DecodeError α

/-- A field with its decoder, and what it is when absent. -/
structure Field (α : Type) where
  name : String
  decode : Decoder α
  default? : Option α

/-- The fields of a record, in order. -/
inductive Shape : List Type → Type 1
  | nil : Shape []
  | cons {α : Type} {αs : List Type} (field : Field α) (rest : Shape αs) : Shape (α :: αs)

/-- A value for every field. -/
def Values : List Type → Type
  | [] => Unit
  | α :: αs => α × Values αs

/-- The values found so far. -/
def Slots : List Type → Type
  | [] => Unit
  | α :: αs => Option α × Slots αs

namespace Shape

/-- A field that must be present. -/
def required (name : String) (decode : Decoder α) (rest : Shape αs) : Shape (α :: αs) :=
  cons ⟨name, decode, none⟩ rest

/-- A field with a value for its absence. -/
def optional (name : String) (decode : Decoder α) (default : α) (rest : Shape αs) :
    Shape (α :: αs) :=
  cons ⟨name, decode, some default⟩ rest

def names : Shape αs → List String
  | nil => []
  | cons field rest => field.name :: rest.names

/-- No value found yet. -/
def empty : Shape αs → Slots αs
  | nil => ()
  | cons _ rest => (none, rest.empty)

/-- Decodes a member into the slot of its field; none if no field has its name. -/
def offer (source : Source) (name : String) (d : Draft) :
    {αs : List Type} → Shape αs → Slots αs → Except DecodeError (Option (Slots αs))
  | _, nil, _ => .ok none
  | _, cons field rest, (slot, slots) =>
      if field.name = name then
        if slot.isSome then .error (.duplicateField name)
        else (field.decode source d).map fun v => some (some v, slots)
      else (offer source name d rest slots).map fun r => r.map fun slots => (slot, slots)

/-- The values of all fields, or the first that is missing. -/
def finish : {αs : List Type} → Shape αs → Slots αs → Except DecodeError (Values αs)
  | _, nil, _ => .ok ()
  | _, cons field rest, (slot, slots) =>
      match slot <|> field.default? with
      | some v => (finish rest slots).map fun vs => (v, vs)
      | none => .error (.missingField field.name)

/-- Decodes the members of an object into slots. A member without a field is passed over,
or is an error where the record is strict. -/
def members (shape : Shape αs) (strict : Bool) (source : Source) (slots : Slots αs) :
    List (Draft × Draft) → Except DecodeError (Slots αs)
  | [] => .ok slots
  | (.str name, d) :: rest => do
      match ← shape.offer source name d slots with
      | some slots => members shape strict source slots rest
      | none =>
          if strict then .error (.unknownField name shape.names)
          else if d.wellFormed then members shape strict source slots rest
          else .error .malformed
  | _ :: _ => .error .malformed

/-- Decodes the items of an array in the order of the fields, and gives back the items left
over; an array may end early where all further fields may be absent. -/
def items (want : String) (source : Source) (closed : Bool) :
    {αs : List Type} → Nat → Shape αs → List Draft →
      Except DecodeError (Values αs × List Draft)
  | _, _, nil, rest => .ok ((), rest)
  | _, index, cons field shape, d :: rest => do
      let v ← field.decode source d
      let (vs, left) ← items want source closed (index + 1) shape rest
      return ((v, vs), left)
  | _, index, cons field shape, [] =>
      if closed then
        match field.default? with
        | some v =>
            (items want source closed (index + 1) shape []).map fun (vs, left) => ((v, vs), left)
        | none => .error (.invalidLength index want)
      else .error .malformed

end Shape

/-- How a record is called in messages. -/
structure Title where
  /-- Its name where another type stands. -/
  name : String
  /-- Its name where an array is too short. -/
  full : String

/-- The name of a record with the number of its fields. -/
def Title.counted (name : String) (count : Nat) : Title :=
  ⟨"struct " ++ name, "struct " ++ name ++ " with " ++ toString count ++ " elements"⟩

/-- Decodes a record by its shape and builds it from the values of its fields. -/
def Decoder.record (title : Title) (strict : Bool) (shape : Shape αs)
    (build : Values αs → Except DecodeError β) : Decoder β := fun source d =>
  match d with
  | .obj found closed => do
      let slots ← shape.members strict source shape.empty found
      if closed then build (← shape.finish slots) else .error .malformed
  | .arr found closed => do
      let (values, left) ← shape.items title.full source closed 0 found
      let built ← build values
      if left.isEmpty then
        if closed then .ok built else .error .malformed
      else
        match source with
        | .text => .error .malformed
        | .value => .error (.invalidLength found.length "fewer elements in array")
  | d => .error (.mismatch d title.name)

namespace Decoder

def str : Decoder String := fun _ d =>
  match d with
  | .str s => .ok s
  | d => .error (.mismatch d "a string")

/-- A whole number below a bound. -/
def natBelow (bound : Nat) (want : String) : Decoder Nat := fun _ d =>
  match d with
  | .int i =>
      if 0 ≤ i.val ∧ i.val < bound then .ok i.val.toNat
      else .error (.invalidValue (.int i.val) want)
  | d => .error (.mismatch d want)

def uint32 : Decoder UInt32 := fun source d =>
  (natBelow 0x100000000 "u32" source d).map UInt32.ofNat

def uint64 : Decoder UInt64 := fun source d =>
  (natBelow 0x10000000000000000 "u64" source d).map UInt64.ofNat

/-- The size of a collection. -/
def size : Decoder Nat := natBelow 0x10000000000000000 "usize"

/-- A value or `null`. -/
def nullable (decode : Decoder α) : Decoder (Option α) := fun source d =>
  match d with
  | .null => .ok none
  | d => (decode source d).map some

/-- Decodes items in order. -/
def each (decode : Decoder α) (source : Source) : List Draft → Except DecodeError (List α)
  | [] => .ok []
  | d :: rest => do
      let v ← decode source d
      let values ← each decode source rest
      return v :: values

/-- An array of any length. -/
def list (decode : Decoder α) : Decoder (List α) := fun source d =>
  match d with
  | .arr items closed => do
      let values ← each decode source items
      if closed then .ok values else .error .malformed
  | d => .error (.mismatch d "a sequence")

/-- The name of a choice, given as a string or as an object that maps the name to `null`. -/
def choice (names : List String) (pick : String → Option α) : Decoder α := fun source d =>
  let named (s : String) : Except DecodeError α :=
    match pick s with
    | some a => .ok a
    | none => .error (.unknownVariant s names)
  let payload (d : Draft) : Except DecodeError Unit :=
    match d with
    | .null => .ok ()
    | d => .error (.mismatch d "unit")
  match source, d with
  | _, .str s => named s
  | .text, .obj [] _ => .error .malformed
  | .text, .obj ((key, d) :: rest) closed =>
      match key with
      | .str s => do
          let a ← named s
          payload d
          if rest.isEmpty && closed then .ok a else .error .malformed
      | key => .error (.mismatch key "variant identifier")
  | .text, _ => .error .malformed
  | .value, .obj [(.str s, d)] _ => do
      let a ← named s
      payload d
      return a
  | .value, .obj _ _ => .error (.invalidValue .map "map with a single key")
  | .value, d => .error (.mismatch d "string or map")

/-- Decodes a value. -/
def ofValue (decode : Decoder α) (v : Json) : Except DecodeError α :=
  decode .value (Draft.ofValue v)

end Decoder

end RecordGraph
