import RecordGraph.Identifier
import RecordGraph.Record

/-!
# The registry of entity types

The registry gives each known entity type its node label. Types and labels belong to each
other one to one, so a label tells the type it stands for.
-/

namespace RecordGraph

/-- The label of urns whose type is not registered. -/
def unknownLabel : String := "UNKNOWN"

/-- Whether a label may be given to an entity type. -/
def Descriptor.isAcceptable (d : Descriptor) : Bool :=
  d.entityType ≠ "" && Identifier.isValid d.label && d.label ≠ unknownLabel

/-- Known entity types with their labels. -/
structure Registry where
  entries : List Descriptor
  acceptable : ∀ d ∈ entries, d.isAcceptable = true
  types_nodup : (entries.map Descriptor.entityType).Nodup
  labels_nodup : (entries.map Descriptor.label).Nodup

/-- Why descriptors do not form a registry. -/
inductive RegistryError
  | noEntityType (label : String)
  | badLabel (label entityType : String)
  | twoLabels (entityType known label : String)
  | twoTypes (known entityType label : String)
deriving DecidableEq, Repr

def RegistryError.message : RegistryError → String
  | noEntityType label => "entity label " ++ label ++ " has no urn entity type"
  | badLabel label entityType =>
      "invalid node label '" ++ label ++ "' for entity type " ++ entityType
  | twoLabels entityType known label =>
      "entity type " ++ entityType ++ " maps to both " ++ known ++ " and " ++ label
  | twoTypes known entityType label =>
      "entity types " ++ known ++ " and " ++ entityType ++ " both map to label " ++ label

namespace Registry

def empty : Registry := ⟨[], by simp, by simp, by simp⟩

/-- The label of a registered entity type. -/
def label? (r : Registry) (entityType : String) : Option String :=
  (r.entries.find? (·.entityType = entityType)).map Descriptor.label

/-- The entity type that a label was given to. -/
def owner? (r : Registry) (label : String) : Option String :=
  (r.entries.find? (·.label = label)).map Descriptor.entityType

/-- The node label of a urn. -/
def labelFor (r : Registry) (u : Urn) : String := (r.label? u.entityType).getD unknownLabel

def contains (r : Registry) (entityType : String) : Bool := (r.label? entityType).isSome

def size (r : Registry) : Nat := r.entries.length

def isEmpty (r : Registry) : Bool := r.entries.isEmpty

theorem label?_eq_none {r : Registry} {t : String} (h : r.label? t = none) :
    t ∉ r.entries.map Descriptor.entityType := by
  simp only [label?, Option.map_eq_none_iff, List.find?_eq_none, decide_eq_true_eq] at h
  simp only [List.mem_map, not_exists, not_and]
  exact fun d member => h d member

theorem owner?_eq_none {r : Registry} {l : String} (h : r.owner? l = none) :
    l ∉ r.entries.map Descriptor.label := by
  simp only [owner?, Option.map_eq_none_iff, List.find?_eq_none, decide_eq_true_eq] at h
  simp only [List.mem_map, not_exists, not_and]
  exact fun d member => h d member

theorem nodup_concat {α : Type u} {xs : List α} {x : α} (h : xs.Nodup) (new : x ∉ xs) :
    (xs ++ [x]).Nodup := by
  rw [List.nodup_append]
  refine ⟨h, by simp, ?_⟩
  rintro a member b last rfl
  exact new (List.mem_singleton.1 last ▸ member)

/-- Registers one more type. The pair of a type and a label may be given again. -/
def add (r : Registry) (d : Descriptor) : Except RegistryError Registry :=
  if d.entityType = "" then .error (.noEntityType d.label)
  else if h : d.isAcceptable then
    match found : r.label? d.entityType with
    | some known =>
        if known = d.label then .ok r else .error (.twoLabels d.entityType known d.label)
    | none =>
        match owned : r.owner? d.label with
        | some known => .error (.twoTypes known d.entityType d.label)
        | none => .ok {
            entries := r.entries ++ [d]
            acceptable := by
              intro e member
              rcases List.mem_append.1 member with old | last
              · exact r.acceptable e old
              · rw [List.mem_singleton.1 last]
                exact h
            types_nodup := by
              rw [List.map_append]
              exact nodup_concat r.types_nodup (label?_eq_none found)
            labels_nodup := by
              rw [List.map_append]
              exact nodup_concat r.labels_nodup (owner?_eq_none owned) }
  else .error (.badLabel d.label d.entityType)

/-- Registers types one after another; the first that does not fit is the error. -/
def addAll (r : Registry) : List Descriptor → Except RegistryError Registry
  | [] => .ok r
  | d :: rest => do
      let r ← r.add d
      r.addAll rest

/-- The registry of the given types. -/
def ofDescriptors (ds : List Descriptor) : Except RegistryError Registry := empty.addAll ds

/-- A registry that all parts of a process share, once somebody has set it. -/
abbrev Shared := Option Registry

/-- The shared registry, set from the given types if it was not set before. Types that do
not form a registry are an error in any case and set nothing. -/
def Shared.getOrInit (shared : Shared) (ds : List Descriptor) :
    Except RegistryError Registry × Shared :=
  match ofDescriptors ds with
  | .error e => (.error e, shared)
  | .ok built => (.ok (shared.getD built), some (shared.getD built))

end Registry

end RecordGraph
