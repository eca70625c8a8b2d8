import RecordGraph.Identifier
import RecordGraph.Record

/-!
# Validation

A validator decides which records may be written. The structural one refuses records that
cannot be graph elements at all: labels and filter fields that are no identifiers, and
properties that are neither primitive nor flat lists.
-/

namespace RecordGraph

/-- What is wrong with a record. -/
inductive ViolationReason
  | properties (e : PropertyError)
  | urnProperty (found : String)
  | notStorable (property : String)
  | relationshipLabel
  | filterField (field : String)
  | rejected
deriving DecidableEq, Repr

/-- A record that may not be written, by its urn or its label. -/
structure Violation where
  record : String
  reason : ViolationReason
deriving DecidableEq, Repr

def ViolationReason.message : ViolationReason → String
  | properties e => e.message
  | urnProperty found => "urn property " ++ found ++ " does not match the record urn"
  | notStorable property => "property '" ++ property ++ "' is not a primitive or a flat list"
  | relationshipLabel => "relationship label is not a valid identifier"
  | filterField field => "filter field '" ++ field ++ "' is not a valid identifier"
  | rejected => "rejected"

def Violation.message (v : Violation) : String := v.record ++ ": " ++ v.reason.message

namespace PropertyValue

def isContainer : PropertyValue → Bool
  | list _ | map _ => true
  | _ => false

/-- Whether a value is primitive or a list of primitive values. -/
def isStorable : PropertyValue → Bool
  | map _ => false
  | list items => items.all (!·.isContainer)
  | _ => true

end PropertyValue

/-- The first property that cannot be stored. -/
def PropertyMap.unstorable? (m : PropertyMap) : Option String :=
  (m.find? (!·.2.isStorable)).map Prod.fst

/-- Decides which records may be written. -/
structure Validator where
  entity : Entity → Except Violation Unit
  relationship : Relationship → Except Violation Unit

namespace Validator

/-- Refuses properties that cannot be stored. -/
def storable (record : String) (m : PropertyMap) : Except Violation Unit :=
  match m.unstorable? with
  | some property => .error ⟨record, .notStorable property⟩
  | none => .ok ()

/-- An entity needs properties that can be stored, and a text among them with the name `urn`
must be its own urn. -/
def structuralEntity (e : Entity) : Except Violation Unit :=
  match e.properties with
  | .error reason => .error ⟨e.urn.text, .properties reason⟩
  | .ok ⟨m, _⟩ =>
      match SortedMap.get? m "urn" with
      | some (.str found) =>
          if found = e.urn.text then storable e.urn.text m
          else .error ⟨e.urn.text, .urnProperty found⟩
      | _ => storable e.urn.text m

/-- A relationship needs a label and filter fields that are identifiers, and properties
that can be stored. -/
def structuralRelationship (r : Relationship) : Except Violation Unit :=
  if Identifier.isValid r.label then
    match r.filterFields.find? (!Identifier.isValid ·) with
    | some field => .error ⟨r.label, .filterField field⟩
    | none =>
        match r.properties with
        | .error reason => .error ⟨r.label, .properties reason⟩
        | .ok ⟨m, _⟩ => storable r.label m
  else .error ⟨r.label, .relationshipLabel⟩

def structural : Validator := ⟨structuralEntity, structuralRelationship⟩

def acceptAll : Validator := ⟨fun _ => .ok (), fun _ => .ok ()⟩

def rejectAll : Validator where
  entity e := .error ⟨e.urn.text, .rejected⟩
  relationship r := .error ⟨r.label, .rejected⟩

end Validator

end RecordGraph
