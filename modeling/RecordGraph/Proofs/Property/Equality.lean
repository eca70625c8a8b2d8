import RecordGraph.Proofs.Property.RoundTrip

/-!
# Values that equal themselves

Equality compares floats as numbers, so a value with not-a-number somewhere within it equals
nothing, itself included, and every other value equals itself.
-/

namespace RecordGraph.PropertyValue

/-- Whether not-a-number is among the floats within a value. -/
inductive HoldsNaN : PropertyValue → Prop
  | float {x : Double} (nan : x.isNaN = true) : HoldsNaN (.float x)
  | item {items : List PropertyValue} {v : PropertyValue} (member : v ∈ items)
      (inside : HoldsNaN v) : HoldsNaN (.list items)
  | field {fields : List (String × PropertyValue)} {name : String} {v : PropertyValue}
      (member : (name, v) ∈ fields) (inside : HoldsNaN v) : HoldsNaN (.map fields)

variable {items others : List PropertyValue} {fields more : List (String × PropertyValue)}

theorem equalItems_self (each : ∀ v ∈ items, v.equal v = true) :
    equalItems items items = true := by
  induction items with
  | nil => rfl
  | cons v rest ih =>
      obtain ⟨first, later⟩ := List.forall_mem_cons.mp each
      rw [equalItems, first, ih later]
      rfl

theorem equalFields_self (each : ∀ field ∈ fields, field.2.equal field.2 = true) :
    equalFields fields fields = true := by
  induction fields with
  | nil => rfl
  | cons field rest ih =>
      obtain ⟨first, later⟩ := List.forall_mem_cons.mp each
      rw [equalFields, first, ih later, beq_self_eq_true]
      rfl

/-- Each item of a list has an equal one in an equal list. -/
theorem exists_equal_item (same : equalItems items others = true) :
    ∀ v ∈ items, ∃ w, v.equal w = true := by
  induction items generalizing others with
  | nil => exact List.forall_mem_nil _
  | cons v rest ih =>
      cases others with
      | nil => cases same
      | cons w others =>
          rw [equalItems, Bool.and_eq_true] at same
          exact List.forall_mem_cons.mpr ⟨⟨w, same.1⟩, ih same.2⟩

theorem exists_equal_field (same : equalFields fields more = true) :
    ∀ field ∈ fields, ∃ w, field.2.equal w = true := by
  induction fields generalizing more with
  | nil => exact List.forall_mem_nil _
  | cons field rest ih =>
      cases more with
      | nil => cases same
      | cons other more =>
          rw [equalFields, Bool.and_eq_true, Bool.and_eq_true] at same
          exact List.forall_mem_cons.mpr ⟨⟨other.2, same.1.2⟩, ih same.2⟩

/-- Nothing equals a value with not-a-number. -/
theorem equal_of_holdsNaN {v : PropertyValue} (nan : v.HoldsNaN) (w : PropertyValue) :
    v.equal w = false := by
  induction nan generalizing w with
  | float nan =>
      cases w with
      | float y => simp [equal, Double.equal, nan]
      | _ => rfl
  | item member inside ih =>
      cases w with
      | list others =>
          rw [equal, ← Bool.not_eq_true]
          intro same
          obtain ⟨w, found⟩ := exists_equal_item same _ member
          rw [ih] at found
          cases found
      | _ => rfl
  | field member inside ih =>
      cases w with
      | map more =>
          rw [equal, ← Bool.not_eq_true]
          intro same
          obtain ⟨w, found⟩ := exists_equal_field same _ member
          rw [ih] at found
          cases found
      | _ => rfl

/-- The values that equal themselves are those without not-a-number. -/
theorem equal_self_iff {v : PropertyValue} : v.equal v = true ↔ ¬ v.HoldsNaN := by
  constructor
  · intro same nan
    rw [equal_of_holdsNaN nan] at same
    cases same
  · intro free
    induction v using PropertyValue.induct with
    | bool b => exact beq_self_eq_true b
    | int i => exact beq_self_eq_true i
    | float x =>
        have number : x.isNaN = false := Bool.eq_false_iff.mpr fun nan => free (.float nan)
        simp [equal, Double.equal, number]
    | str s => exact beq_self_eq_true s
    | list items ih =>
        exact equalItems_self fun v member => ih v member fun inside => free (.item member inside)
    | map fields ih =>
        exact equalFields_self fun field member =>
          ih field member fun inside => free (.field member inside)

end RecordGraph.PropertyValue
