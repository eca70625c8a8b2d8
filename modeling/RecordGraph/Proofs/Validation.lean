import RecordGraph.Proofs.Statement.Building
import RecordGraph.Writer

/-!
# What the structural validator accepts

Flat values are primitive ones and lists of primitive ones. The validator accepts exactly the
records whose properties are there and flat, whose names may stand in a statement, and whose
urn is not contradicted by a text among the properties.
-/

namespace RecordGraph

namespace PropertyValue

/-- The values without parts. -/
inductive IsPrimitive : PropertyValue → Prop
  | bool (b : Bool) : IsPrimitive (.bool b)
  | int (i : Int64) : IsPrimitive (.int i)
  | float (x : Double) : IsPrimitive (.float x)
  | str (s : String) : IsPrimitive (.str s)

/-- The values without nested parts. -/
inductive IsFlat : PropertyValue → Prop
  | primitive {v : PropertyValue} (plain : v.IsPrimitive) : IsFlat v
  | list {items : List PropertyValue} (plain : ∀ v ∈ items, v.IsPrimitive) : IsFlat (.list items)

theorem isContainer_eq_false_iff {v : PropertyValue} : v.isContainer = false ↔ v.IsPrimitive := by
  constructor
  · intro plain
    cases v with
    | bool b => exact .bool b
    | int i => exact .int i
    | float x => exact .float x
    | str s => exact .str s
    | list items => cases plain
    | map fields => cases plain
  · intro plain
    cases plain <;> rfl

theorem isStorable_iff {v : PropertyValue} : v.isStorable = true ↔ v.IsFlat := by
  have all (items : List PropertyValue) :
      (items.all fun v => !v.isContainer) = true ↔ ∀ v ∈ items, v.IsPrimitive := by
    simp only [List.all_eq_true, Bool.not_eq_true', isContainer_eq_false_iff]
  constructor
  · intro storable
    cases v with
    | bool b => exact .primitive (.bool b)
    | int i => exact .primitive (.int i)
    | float x => exact .primitive (.float x)
    | str s => exact .primitive (.str s)
    | list items => exact .list ((all items).mp storable)
    | map fields => cases storable
  · intro flat
    cases flat with
    | primitive plain => cases plain <;> rfl
    | list plain => exact (all _).mpr plain

end PropertyValue

/-- Whether all values of a property map are flat. -/
def PropertyMap.IsFlat (m : PropertyMap) : Prop := ∀ field ∈ m, field.2.IsFlat

theorem PropertyMap.unstorable?_eq_none_iff {m : PropertyMap} :
    m.unstorable? = none ↔ m.IsFlat := by
  simp only [unstorable?, Option.map_eq_none_iff, List.find?_eq_none, Bool.not_eq_true,
    Bool.not_eq_false', IsFlat, PropertyValue.isStorable_iff]

/-- An entity that can be written. -/
structure Entity.Writable (e : Entity) : Prop where
  properties : ∃ p, e.properties = .ok p
  flat : PropertyMap.IsFlat (Statement.carried e.properties)
  /-- A text with the name `urn` among the properties is the urn of the entity. -/
  urn : ∀ found, SortedMap.get? (Statement.carried e.properties) "urn" = some (.str found) →
    found = e.urn.text

/-- A relationship that can be written. -/
structure Relationship.Writable (r : Relationship) : Prop where
  label : Identifier.isValid r.label = true
  fields : ∀ field ∈ r.filterFields, Identifier.isValid field = true
  properties : ∃ p, r.properties = .ok p
  flat : PropertyMap.IsFlat (Statement.carried r.properties)

namespace Validator

theorem storable_eq_ok_iff {record : String} {m : PropertyMap} :
    storable record m = .ok () ↔ m.IsFlat := by
  rw [← PropertyMap.unstorable?_eq_none_iff, storable]
  cases m.unstorable? with
  | none => simp
  | some property => simp

/-- What is left to check of an entity whose properties are there. -/
theorem structuralEntity_of_properties {e : Entity} {p : Properties}
    (computed : e.properties = .ok p) :
    structuralEntity e = .ok () ↔
      (∀ found, SortedMap.get? p.map "urn" = some (.str found) → found = e.urn.text) ∧
        p.map.IsFlat := by
  rw [← @storable_eq_ok_iff e.urn.text]
  unfold structuralEntity
  rw [computed]
  dsimp only
  split
  · rename_i found named
    constructor
    · intro accepted
      split at accepted
      · rename_i same
        refine ⟨?_, accepted⟩
        intro other again
        cases named.symm.trans again
        exact same
      · cases accepted
    · rintro ⟨agrees, storable⟩
      rw [if_pos (agrees found named)]
      exact storable
  · rename_i unnamed
    constructor
    · intro accepted
      exact ⟨fun found named => absurd named (unnamed found), accepted⟩
    · rintro ⟨-, storable⟩
      exact storable

theorem structuralEntity_eq_ok_iff {e : Entity} :
    structural.entity e = .ok () ↔ e.Writable := by
  change structuralEntity e = .ok () ↔ _
  cases computed : e.properties with
  | error reason =>
      constructor
      · intro accepted
        rw [structuralEntity, computed] at accepted
        cases accepted
      · rintro ⟨⟨p, found⟩, -, -⟩
        cases computed.symm.trans found
  | ok p =>
      have carries : Statement.carried e.properties = p.map := by
        rw [computed]
        rfl
      rw [structuralEntity_of_properties computed, ← carries]
      constructor
      · rintro ⟨urn, flat⟩
        exact ⟨⟨p, computed⟩, flat, urn⟩
      · rintro ⟨-, flat, urn⟩
        exact ⟨urn, flat⟩

theorem structuralRelationship_eq_ok_iff {r : Relationship} :
    structural.relationship r = .ok () ↔ r.Writable := by
  have fields : r.filterFields.find? (!Identifier.isValid ·) = none ↔
      ∀ field ∈ r.filterFields, Identifier.isValid field = true := by
    simp only [List.find?_eq_none, Bool.not_eq_true, Bool.not_eq_false']
  change structuralRelationship r = .ok () ↔ _
  unfold structuralRelationship
  constructor
  · intro accepted
    split at accepted
    · rename_i label
      split at accepted
      · cases accepted
      · rename_i noFault
        split at accepted
        · cases accepted
        · rename_i m ordered computed
          refine ⟨label, fields.mp noFault, ⟨_, computed⟩, ?_⟩
          rw [computed]
          exact storable_eq_ok_iff.mp accepted
    · cases accepted
  · rintro ⟨label, valid, ⟨p, computed⟩, flat⟩
    rw [computed] at flat
    rw [if_pos label, fields.mpr valid, computed]
    exact storable_eq_ok_iff.mpr flat

/-- Records are accepted if each of them is. -/
theorem all_eq_ok_iff {check : α → Except Violation Unit} {rs : List α} :
    Validator.all check rs = .ok () ↔ ∀ r ∈ rs, check r = .ok () := by
  induction rs with
  | nil => simp [Validator.all]
  | cons r rest ih =>
      rw [List.forall_mem_cons, ← ih, Validator.all]
      cases check r with
      | ok accepted => simp
      | error v => simp

end Validator

end RecordGraph
