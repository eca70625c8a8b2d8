import RecordGraph.Decode.Shape
import RecordGraph.Proofs.Success

/-!
# Records and their shapes

Every value of a decoded record was decoded by its field, or stands in for a field that was
absent. The other way round, an object that has each field of a shape once and nothing else
gives the values of its fields, in whatever order they come.
-/

namespace RecordGraph

open Json (Draft)

variable {αs : List Type} {source : Source}

namespace Shape

/-! ## Where the values of a record come from -/

/-- Each value was decoded by its field, or is what the field is when absent. -/
def Yields (source : Source) : {αs : List Type} → Shape αs → Values αs → Prop
  | _, nil, _ => True
  | _, cons field rest, (v, vs) =>
      (field.default? = some v ∨ ∃ d, field.decode source d = .ok v) ∧ rest.Yields source vs

/-- Each value found so far was decoded by its field. -/
def Fills (source : Source) : {αs : List Type} → Shape αs → Slots αs → Prop
  | _, nil, _ => True
  | _, cons field rest, (slot, slots) =>
      (∀ v, slot = some v → ∃ d, field.decode source d = .ok v) ∧ rest.Fills source slots

theorem fills_empty (shape : Shape αs) : shape.Fills source shape.empty := by
  induction shape with
  | nil => trivial
  | cons field rest ih =>
      refine ⟨?_, ih⟩
      intro v found
      cases found

theorem Fills.offer {shape : Shape αs} {name : String} {d : Draft} {slots next : Slots αs}
    (fills : shape.Fills source slots)
    (taken : shape.offer source name d slots = .ok (some next)) : shape.Fills source next := by
  induction shape with
  | nil => cases taken
  | cons field rest ih =>
      obtain ⟨slot, slots⟩ := slots
      rw [Shape.offer] at taken
      split at taken
      · split at taken
        · cases taken
        · obtain ⟨v, decoded, same⟩ := map_eq_ok_iff.mp taken
          cases same
          refine ⟨?_, fills.2⟩
          intro w found
          cases found
          exact ⟨d, decoded⟩
      · obtain ⟨found, offered, same⟩ := map_eq_ok_iff.mp taken
        obtain ⟨later, rfl, rfl⟩ := Option.map_eq_some_iff.mp same
        exact ⟨fills.1, ih fills.2 offered⟩

theorem Fills.members {shape : Shape αs} {strict : Bool} {found : List (Draft × Draft)}
    {slots next : Slots αs} (fills : shape.Fills source slots)
    (read : shape.members strict source slots found = .ok next) : shape.Fills source next := by
  induction found generalizing slots with
  | nil =>
      cases read
      exact fills
  | cons member rest ih =>
      obtain ⟨key, d⟩ := member
      cases key with
      | str name =>
          rw [Shape.members] at read
          obtain ⟨offered, taken, read⟩ := bind_eq_ok_iff.mp read
          cases offered with
          | some later => exact ih (fills.offer taken) read
          | none =>
              -- A member without a field leaves the slots as they are.
              simp only at read
              split at read
              · cases read
              · split at read
                · exact ih fills read
                · cases read
      | _ => cases read

theorem Fills.finish {shape : Shape αs} {slots : Slots αs} {values : Values αs}
    (fills : shape.Fills source slots) (done : shape.finish slots = .ok values) :
    shape.Yields source values := by
  induction shape with
  | nil => trivial
  | cons field rest ih =>
      obtain ⟨slot, slots⟩ := slots
      rw [Shape.finish] at done
      split at done
      · rename_i v found
        obtain ⟨vs, later, rfl⟩ := map_eq_ok_iff.mp done
        refine ⟨?_, ih fills.2 later⟩
        cases slot with
        | none => exact .inl found
        | some w => exact .inr (fills.1 v found)
      · cases done

theorem yields_items {shape : Shape αs} {want : String} {closed : Bool} {index : Nat}
    {found left : List Draft} {values : Values αs}
    (read : shape.items want source closed index found = .ok (values, left)) :
    shape.Yields source values := by
  induction shape generalizing index found with
  | nil => trivial
  | cons field rest ih =>
      cases found with
      | nil =>
          rw [Shape.items] at read
          split at read
          · split at read
            · rename_i v default
              obtain ⟨⟨vs, unread⟩, later, same⟩ := map_eq_ok_iff.mp read
              cases same
              exact ⟨.inl default, ih later⟩
            · cases read
          · cases read
      | cons d found =>
          rw [Shape.items] at read
          obtain ⟨v, decoded, read⟩ := bind_eq_ok_iff.mp read
          obtain ⟨⟨vs, unread⟩, later, same⟩ := bind_eq_ok_iff.mp read
          cases same
          exact ⟨.inr ⟨d, decoded⟩, ih later⟩

end Shape

/-- A decoded record is built from values that come from its fields. -/
theorem Decoder.yields_of_record {title : Title} {strict : Bool} {shape : Shape αs}
    {build : Values αs → Except DecodeError β} {d : Draft} {b : β}
    (decoded : Decoder.record title strict shape build source d = .ok b) :
    ∃ values, shape.Yields source values ∧ build values = .ok b := by
  cases d with
  | obj found closed =>
      obtain ⟨slots, read, decoded⟩ := bind_eq_ok_iff.mp decoded
      split at decoded
      · obtain ⟨values, done, built⟩ := bind_eq_ok_iff.mp decoded
        exact ⟨values, (shape.fills_empty.members read).finish done, built⟩
      · cases decoded
  | arr found closed =>
      obtain ⟨⟨values, left⟩, read, decoded⟩ := bind_eq_ok_iff.mp decoded
      obtain ⟨made, built, decoded⟩ := bind_eq_ok_iff.mp decoded
      refine ⟨values, Shape.yields_items read, ?_⟩
      split at decoded
      · split at decoded
        · cases decoded
          exact built
        · cases decoded
      · cases source <;> cases decoded
  | _ => cases decoded

/-! ## Objects with every field -/

/-- What the rest of an object has to bring for a field: nothing if its value is found, and
else a member that is decoded to it. -/
def Field.Awaits (source : Source) (later : List (String × Json)) (field : Field α)
    (slot : Option α) (v : α) : Prop :=
  slot = some v ∧ field.name ∉ later.map Prod.fst ∨
    slot = none ∧ ∃ w, (field.name, w) ∈ later ∧ field.decode source (Draft.ofValue w) = .ok v

theorem Field.awaits_of_mem {field : Field α} {later : List (String × Json)} {v : α} (w : Json)
    (member : (field.name, w) ∈ later) (decoded : field.decode source (Draft.ofValue w) = .ok v) :
    field.Awaits source later none v :=
  .inr ⟨rfl, w, member, decoded⟩

theorem Field.Awaits.skip {field : Field α} {name : String} {w : Json}
    {later : List (String × Json)} {slot : Option α} {v : α}
    (awaits : field.Awaits source ((name, w) :: later) slot v) (other : field.name ≠ name) :
    field.Awaits source later slot v := by
  rcases awaits with ⟨found, absent⟩ | ⟨empty, u, member, decoded⟩
  · exact .inl ⟨found, fun member => absent (List.mem_cons_of_mem _ member)⟩
  · refine .inr ⟨empty, u, ?_, decoded⟩
    rcases List.mem_cons.mp member with here | member
    · exact absurd (congrArg Prod.fst here) other
    · exact member

namespace Shape

/-- What the rest of an object has to bring for the values of all fields. -/
def Awaits (source : Source) (later : List (String × Json)) :
    {αs : List Type} → Shape αs → Slots αs → Values αs → Prop
  | _, nil, _, _ => True
  | _, cons field rest, (slot, slots), (v, vs) =>
      field.Awaits source later slot v ∧ rest.Awaits source later slots vs

variable {shape : Shape αs} {later : List (String × Json)} {slots : Slots αs}
  {values : Values αs} {name : String} {w : Json}

theorem Awaits.skip (awaits : shape.Awaits source ((name, w) :: later) slots values)
    (unknown : name ∉ shape.names) : shape.Awaits source later slots values := by
  induction shape with
  | nil => trivial
  | cons field rest ih =>
      obtain ⟨other, others⟩ := not_or.mp (mt List.mem_cons.mpr unknown)
      exact ⟨awaits.1.skip (Ne.symm other), ih awaits.2 others⟩

/-- The next member goes to its field. -/
theorem Awaits.offer (awaits : shape.Awaits source ((name, w) :: later) slots values)
    (distinct : shape.names.Nodup) (fresh : name ∉ later.map Prod.fst)
    (known : name ∈ shape.names) :
    ∃ next, shape.offer source name (Draft.ofValue w) slots = .ok (some next) ∧
      shape.Awaits source later next values := by
  induction shape with
  | nil => cases known
  | cons field rest ih =>
      obtain ⟨slot, slots⟩ := slots
      obtain ⟨v, vs⟩ := values
      obtain ⟨here, others⟩ := awaits
      obtain ⟨only, distinct⟩ := List.nodup_cons.mp distinct
      by_cases same : field.name = name
      · subst same
        rcases here with ⟨-, absent⟩ | ⟨rfl, u, member, decoded⟩
        · exact absurd List.mem_cons_self absent
        · have this : u = w := by
            rcases List.mem_cons.mp member with here | member
            · exact congrArg Prod.snd here
            · exact absurd (List.mem_map_of_mem member) fresh
          subst this
          refine ⟨(some v, slots), ?_, .inl ⟨rfl, fresh⟩, others.skip only⟩
          rw [Shape.offer, if_pos rfl, decoded]
          rfl
      · have known : name ∈ rest.names :=
          (List.mem_cons.mp known).resolve_left (Ne.symm same)
        obtain ⟨next, offered, awaits⟩ := ih others distinct known
        refine ⟨(slot, next), ?_, here.skip same, awaits⟩
        rw [Shape.offer, if_neg same, offered]
        rfl

theorem Awaits.finish (awaits : shape.Awaits source [] slots values) :
    shape.finish slots = .ok values := by
  induction shape with
  | nil => rfl
  | cons field rest ih =>
      obtain ⟨slot, slots⟩ := slots
      obtain ⟨v, vs⟩ := values
      obtain ⟨⟨rfl, -⟩ | ⟨-, u, member, -⟩, others⟩ := awaits
      · change (rest.finish slots).map (fun vs => (v, vs)) = .ok (v, vs)
        rw [ih others]
        rfl
      · cases member

theorem Awaits.members (awaits : shape.Awaits source later slots values) (strict : Bool)
    (distinct : shape.names.Nodup) (once : (later.map Prod.fst).Nodup)
    (known : ∀ name ∈ later.map Prod.fst, name ∈ shape.names) :
    ∃ next, shape.members strict source slots (Draft.ofFields later) = .ok next ∧
      shape.finish next = .ok values := by
  induction later generalizing slots with
  | nil => exact ⟨slots, rfl, awaits.finish⟩
  | cons member rest ih =>
      obtain ⟨name, w⟩ := member
      obtain ⟨fresh, once⟩ := List.nodup_cons.mp once
      obtain ⟨first, known⟩ := List.forall_mem_cons.mp known
      obtain ⟨next, offered, awaits⟩ := awaits.offer distinct fresh first
      rw [Draft.ofFields, Shape.members, offered]
      exact ih awaits once known

end Shape

/-- An object whose members are the fields of a shape, in any order, is decoded from what
they hold. -/
theorem Decoder.record_of_awaits {title : Title} {strict : Bool} {shape : Shape αs}
    {build : Values αs → Except DecodeError β} {fields : List (String × Json)} {b : β}
    (values : Values αs) (distinct : shape.names.Nodup)
    (names : (fields.map Prod.fst).Perm shape.names)
    (awaits : shape.Awaits source fields shape.empty values) (built : build values = .ok b) :
    Decoder.record title strict shape build source (Draft.ofValue (.obj fields)) = .ok b := by
  obtain ⟨slots, read, done⟩ := awaits.members strict distinct
    (names.nodup_iff.mpr distinct) fun name => names.mem_iff.mp
  change (shape.members strict source shape.empty (Draft.ofFields fields) >>= fun slots =>
    shape.finish slots >>= build) = .ok b
  rw [read]
  change (shape.finish slots >>= build) = .ok b
  rw [done]
  exact built

theorem Decoder.each_of_forall {decode : Decoder α} {write : α → Json}
    (read : ∀ x, decode source (Draft.ofValue (write x)) = .ok x) (xs : List α) :
    Decoder.each decode source (Draft.ofItems (xs.map write)) = .ok xs := by
  induction xs with
  | nil => rfl
  | cons x rest ih =>
      rw [List.map_cons, Draft.ofItems, Decoder.each, read x, ih]
      rfl

/-- A list is read back if each item is. -/
theorem Decoder.list_of_forall {decode : Decoder α} {write : α → Json}
    (read : ∀ x, decode source (Draft.ofValue (write x)) = .ok x) (xs : List α) :
    Decoder.list decode source (Draft.ofValue (.arr (xs.map write))) = .ok xs := by
  change (Decoder.each decode source (Draft.ofItems (xs.map write)) >>= fun values =>
    .ok values) = .ok xs
  rw [Decoder.each_of_forall read]
  rfl

end RecordGraph
