import RecordGraph.Decode.Shape
import RecordGraph.Json.Reader
import RecordGraph.Record
import RecordGraph.Event

/-!
# Decoding records

The decoders of urns, properties, records and events. A record's own properties lose their
nulls, while a property value that is decoded by itself may hold none.
-/

namespace RecordGraph

open Json (Draft)

/-- Decodes a whole text, after which nothing may follow. -/
def Decoder.ofText (decode : Decoder α) (text : String) : Except DecodeError α := do
  let document := Json.Document.ofText text
  let v ← decode .text document.root
  if document.ended then .ok v else .error .malformed

def Urn.decode : Decoder Urn := fun source d => do
  (Urn.parse (← Decoder.str source d)).mapError .urn

namespace PropertyValue

/-! A draft is taken by the first variant of a property that fits it. -/

def boolean? : Draft → Option PropertyValue
  | .bool b => some (bool b)
  | _ => none

/-- A whole number of 64 bits with a sign. -/
def integer? : Draft → Option PropertyValue
  | .int i => (Numeral.word? i.val).map int
  | _ => none

/-- Any number; a whole one becomes the nearest double. -/
def number? : Draft → Option PropertyValue
  | .int i => some (float (Double.ofNat (decide (i.val < 0)) i.val.natAbs))
  | .float x => some (float x.toDouble)
  | _ => none

def text? : Draft → Option PropertyValue
  | .str s => some (str s)
  | _ => none

/-- The first variant without parts that fits. -/
def scalar? (d : Draft) : Option PropertyValue :=
  (boolean? d).or ((integer? d).or ((number? d).or (text? d)))

mutual

/-- The property that a draft stands for; none if there is a null inside, which no variant
fits. -/
def ofDraft? (d : Draft) : Option PropertyValue :=
  (scalar? d).or
    (match d with
    | .arr items _ => (ofDraftItems? items).map list
    | .obj members _ => (ofDraftMembers? [] members).map map
    | _ => none)

def ofDraftItems? : List Draft → Option (List PropertyValue)
  | [] => some []
  | d :: rest => do
      let p ← ofDraft? d
      let properties ← ofDraftItems? rest
      return p :: properties

/-- The fields read so far with all members added, later ones replacing earlier ones. -/
def ofDraftMembers? (read : List (String × PropertyValue)) :
    List (Draft × Draft) → Option (List (String × PropertyValue))
  | [] => some read
  | (key, d) :: rest =>
      match key, ofDraft? d with
      | .str name, some p => ofDraftMembers? (SortedMap.insert read name p) rest
      | _, _ => none

end

/-- Decodes a property. The whole text of it is read before anything else is checked. -/
def decode : Decoder PropertyValue := fun _ d =>
  if d.value?.isNone then .error .malformed
  else
    match ofDraft? d with
    | some p => .ok p
    | none => .error .noProperty

end PropertyValue

namespace PropertyMap

/-- Decodes the members of an object one by one. -/
def decodeMembers (source : Source) (read : PropertyMap) :
    List (Draft × Draft) → Except DecodeError PropertyMap
  | [] => .ok read
  | (.str name, d) :: rest => do
      let p ← PropertyValue.decode source d
      decodeMembers source (SortedMap.insert read name p) rest
  | _ :: _ => .error .malformed

/-- Decodes properties none of which may be null. -/
def decode : Decoder PropertyMap := fun source d =>
  match d with
  | .obj members closed => do
      let read ← decodeMembers source [] members
      if closed then .ok read else .error .malformed
  | d => .error (.mismatch d "a map")

end PropertyMap

/-- Decodes the properties of a record, which lose their nulls. -/
def Properties.decode : Decoder Properties := fun _ d =>
  match d with
  | .obj members closed =>
      if closed then
        match Draft.members? [] members with
        | some fields => .ok (Properties.ofJson fields)
        | none => .error .malformed
      else .error .malformed
  | d => .error (.mismatch d "a map")

def EntityRecord.decode : Decoder EntityRecord :=
  .record (.counted "GenericEntity" 2) false
    (.required "urn" Urn.decode <| .optional "properties" Properties.decode .empty .nil)
    fun (urn, properties, _) => .ok ⟨urn, properties⟩

def RelationshipRecord.decode : Decoder RelationshipRecord :=
  .record (.counted "GenericRelationship" 5) false
    (.required "label" .str <| .required "source" Urn.decode <|
      .required "destination" Urn.decode <|
      .optional "properties" Properties.decode .empty <|
      .optional "filter_fields" (.list .str) [] .nil)
    fun (label, source, destination, properties, filterFields, _) =>
      .ok ⟨label, source, destination, properties, filterFields⟩

def Descriptor.decode : Decoder Descriptor :=
  .record (.counted "EntityDescriptor" 2) false
    (.required "entity_type" .str <| .required "label" .str .nil)
    fun (entityType, label, _) => .ok ⟨entityType, label⟩

def RemovalPolicy.decode : Decoder RemovalPolicy :=
  .choice (all.map name) fun s => all.find? (·.name = s)

def WriteKind.decode : Decoder WriteKind :=
  .choice (all.map name) fun s => all.find? (·.name = s)

/-- Decodes a span of time; nanoseconds beyond a second count as seconds. -/
def Duration.decode : Decoder Duration :=
  .record ⟨"struct Duration", "struct Duration"⟩ true
    (.required "secs" .uint64 <| .required "nanos" .uint32 .nil)
    fun (secs, nanos, _) =>
      match Duration.ofParts? secs nanos with
      | some d => .ok d
      | none => .error .durationOverflow

def MetricEvent.decode : Decoder MetricEvent :=
  .record (.counted "MetricEvent" 4) false
    (.required "kind" WriteKind.decode <| .required "count" .size <|
      .required "elapsed" Duration.decode <| .required "retries" .uint32 .nil)
    fun (kind, count, elapsed, retries, _) => .ok ⟨kind, count, elapsed, retries⟩

end RecordGraph
