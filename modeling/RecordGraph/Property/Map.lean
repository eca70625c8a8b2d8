import RecordGraph.Property.Value
import RecordGraph.SortedMap.Lemmas

/-!
# Properties of records

The properties of a record are a map whose names increase, and so are the maps among the
values at every depth. Whatever comes from JSON has this form.
-/

namespace RecordGraph

namespace PropertyValue

mutual

/-- Whether the names increase in every map within a value. -/
def isOrdered : PropertyValue → Bool
  | list items => itemsOrdered items
  | map fields => decide (SortedMap.Sorted fields) && fieldsOrdered fields
  | _ => true

def itemsOrdered : List PropertyValue → Bool
  | [] => true
  | v :: rest => isOrdered v && itemsOrdered rest

def fieldsOrdered : List (String × PropertyValue) → Bool
  | [] => true
  | (_, v) :: rest => isOrdered v && fieldsOrdered rest

end

theorem fieldsOrdered_iff {fields : List (String × PropertyValue)} :
    fieldsOrdered fields = true ↔ ∀ field ∈ fields, field.2.isOrdered = true := by
  induction fields with
  | nil => simp [fieldsOrdered]
  | cons field rest ih =>
      obtain ⟨name, v⟩ := field
      simp [fieldsOrdered, ih]

end PropertyValue

/-- Whether the names increase in a property map and in every map within it. -/
def PropertyMap.isOrdered (m : PropertyMap) : Bool := (PropertyValue.map m).isOrdered

theorem PropertyMap.isOrdered_iff {m : PropertyMap} :
    m.isOrdered = true ↔
      SortedMap.Sorted m ∧ ∀ field ∈ m, field.2.isOrdered = true := by
  rw [PropertyMap.isOrdered, PropertyValue.isOrdered, Bool.and_eq_true, decide_eq_true_eq,
    PropertyValue.fieldsOrdered_iff]

namespace PropertyValue

/-- A map of entries whose values are in order is itself in order. -/
theorem isOrdered_ofList {fields : List (String × PropertyValue)}
    (ordered : fieldsOrdered fields = true) :
    PropertyMap.isOrdered (SortedMap.ofList fields) = true := by
  rw [PropertyMap.isOrdered_iff]
  refine ⟨SortedMap.Sorted.ofList fields, ?_⟩
  intro field member
  exact fieldsOrdered_iff.mp ordered field (SortedMap.mem_of_mem_ofList member)

mutual

theorem isOrdered_ofJson? {v : Json} {p : PropertyValue} (found : ofJson? v = some p) :
    p.isOrdered = true := by
  cases v with
  | null => cases found
  | bool b => cases found; rfl
  | int i =>
      cases found
      unfold ofInteger
      split <;> rfl
  | float x => cases found; rfl
  | str s => cases found; rfl
  | arr items =>
      cases found
      exact itemsOrdered_ofItems items
  | obj fields =>
      cases found
      exact isOrdered_ofList (fieldsOrdered_ofFields fields)

theorem itemsOrdered_ofItems (items : List Json) : itemsOrdered (ofItems items) = true := by
  cases items with
  | nil => rfl
  | cons v rest =>
      unfold ofItems
      cases found : ofJson? v with
      | none => exact itemsOrdered_ofItems rest
      | some p =>
          simp only [itemsOrdered, Bool.and_eq_true]
          exact ⟨isOrdered_ofJson? found, itemsOrdered_ofItems rest⟩

theorem fieldsOrdered_ofFields (fields : List (String × Json)) :
    fieldsOrdered (ofFields fields) = true := by
  cases fields with
  | nil => rfl
  | cons field rest =>
      obtain ⟨name, v⟩ := field
      unfold ofFields
      cases found : ofJson? v with
      | none => exact fieldsOrdered_ofFields rest
      | some p =>
          simp only [fieldsOrdered, Bool.and_eq_true]
          exact ⟨isOrdered_ofJson? found, fieldsOrdered_ofFields rest⟩

end

end PropertyValue

/-- The properties of a record. -/
structure Properties where
  map : PropertyMap
  ordered : map.isOrdered = true

instance : Coe Properties PropertyMap := ⟨Properties.map⟩

namespace Properties

theorem sorted (p : Properties) : SortedMap.Sorted p.map :=
  (PropertyMap.isOrdered_iff.mp p.ordered).1

def empty : Properties := ⟨[], rfl⟩

/-- The fields of a JSON object as properties, without the nulls. -/
def ofJson (fields : List (String × Json)) : Properties :=
  ⟨PropertyMap.ofJson fields,
    PropertyValue.isOrdered_ofList (PropertyValue.fieldsOrdered_ofFields fields)⟩

/-- The properties without one of them. -/
def erase (p : Properties) (name : String) : Properties where
  map := SortedMap.erase p.map name
  ordered := by
    obtain ⟨sorted, ordered⟩ := PropertyMap.isOrdered_iff.mp p.ordered
    refine PropertyMap.isOrdered_iff.mpr ⟨sorted.erase name, ?_⟩
    intro field member
    exact ordered field ((SortedMap.erase_sublist p.map name).subset member)

end Properties

/-- The properties of a record given as a JSON value. -/
def propertiesOf : Json → Except PropertyError Properties
  | .obj fields => .ok (Properties.ofJson fields)
  | v => .error (.notAMap v.kind)

/-- The properties of a record that describes an edge: those beside its two ends. -/
def edgePropertiesOf (record : Json) : Except PropertyError Properties :=
  (propertiesOf record).map fun p => (p.erase "source").erase "destination"

end RecordGraph
