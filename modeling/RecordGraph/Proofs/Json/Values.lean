import RecordGraph.Json.Draft
import RecordGraph.SortedMap.Lemmas

/-!
# JSON values at every depth

A condition holds everywhere in a value if it holds of the value and of all its parts. A value
that was read has its keys in order everywhere, and read as a draft it gives itself back.
Nulls are no properties, so the values without nulls have a name, and so has what is left of
a value when the nulls are taken out.
-/

namespace RecordGraph.Json

/-- What holds of a value if it holds of its parts holds of all values. -/
theorem induct {P : Json → Prop} (null : P null) (bool : ∀ b, P (bool b))
    (int : ∀ i, P (int i)) (float : ∀ x, P (float x)) (str : ∀ s, P (str s))
    (arr : ∀ items, (∀ v ∈ items, P v) → P (arr items))
    (obj : ∀ fields, (∀ field ∈ fields, P field.2) → P (obj fields)) (v : Json) : P v := by
  refine @Json.rec P (fun items => ∀ v ∈ items, P v) (fun fields => ∀ field ∈ fields, P field.2)
    (fun field => P field.2) null bool int float str arr obj ?_ ?_ ?_ ?_ ?_ v
  · exact List.forall_mem_nil _
  · intro v rest first later
    exact List.forall_mem_cons.mpr ⟨first, later⟩
  · exact List.forall_mem_nil _
  · intro field rest first later
    exact List.forall_mem_cons.mpr ⟨first, later⟩
  · intro name v holds
    exact holds

/-! ## Conditions everywhere -/

mutual

/-- Whether a condition holds of a value and of all its parts. -/
def everywhere (p : Json → Bool) : Json → Bool
  | arr items => p (arr items) && itemsEverywhere p items
  | obj fields => p (obj fields) && fieldsEverywhere p fields
  | v => p v

def itemsEverywhere (p : Json → Bool) : List Json → Bool
  | [] => true
  | v :: rest => everywhere p v && itemsEverywhere p rest

def fieldsEverywhere (p : Json → Bool) : List (String × Json) → Bool
  | [] => true
  | (_, v) :: rest => everywhere p v && fieldsEverywhere p rest

end

variable {p : Json → Bool} {items : List Json} {fields : List (String × Json)} {v : Json}

theorem everywhere_arr : (arr items).everywhere p = true ↔
    p (arr items) = true ∧ ∀ v ∈ items, v.everywhere p = true := by
  have parts : itemsEverywhere p items = true ↔ ∀ v ∈ items, v.everywhere p = true := by
    induction items with
    | nil => simp [itemsEverywhere]
    | cons v rest ih => simp [itemsEverywhere, ih]
  rw [everywhere, Bool.and_eq_true, parts]

theorem everywhere_obj : (obj fields).everywhere p = true ↔
    p (obj fields) = true ∧ ∀ field ∈ fields, field.2.everywhere p = true := by
  have parts : fieldsEverywhere p fields = true ↔
      ∀ field ∈ fields, field.2.everywhere p = true := by
    induction fields with
    | nil => simp [fieldsEverywhere]
    | cons field rest ih =>
        obtain ⟨name, v⟩ := field
        simp [fieldsEverywhere, ih]
  rw [everywhere, Bool.and_eq_true, parts]

/-- Whether the keys of an object increase. -/
def keysIncrease : Json → Bool
  | obj fields => decide (SortedMap.Sorted fields)
  | _ => true

/-- Whether the keys increase in every object within a value. -/
def isOrdered (v : Json) : Bool := v.everywhere keysIncrease

theorem isOrdered_arr : (arr items).isOrdered = true ↔ ∀ v ∈ items, v.isOrdered = true :=
  everywhere_arr.trans (and_iff_right rfl)

theorem isOrdered_obj : (obj fields).isOrdered = true ↔
    SortedMap.Sorted fields ∧ ∀ field ∈ fields, field.2.isOrdered = true :=
  everywhere_obj.trans (and_congr_left fun _ => decide_eq_true_iff)

def isNull : Json → Bool
  | null => true
  | _ => false

/-- Whether a value has no null at any depth. -/
def isNullFree (v : Json) : Bool := v.everywhere fun part => !part.isNull

theorem isNullFree_arr : (arr items).isNullFree = true ↔ ∀ v ∈ items, v.isNullFree = true :=
  everywhere_arr.trans (and_iff_right rfl)

theorem isNullFree_obj : (obj fields).isNullFree = true ↔
    ∀ field ∈ fields, field.2.isNullFree = true :=
  everywhere_obj.trans (and_iff_right rfl)

theorem isNullFree_arr_eq_false : (arr items).isNullFree = false ↔
    ∃ v ∈ items, v.isNullFree = false := by
  rw [← Bool.not_eq_true, isNullFree_arr]
  simp

theorem isNullFree_obj_eq_false : (obj fields).isNullFree = false ↔
    ∃ field ∈ fields, field.2.isNullFree = false := by
  rw [← Bool.not_eq_true, isNullFree_obj]
  simp

theorem isNull_iff : v.isNull = true ↔ v = null := by
  cases v <;> simp [isNull]

theorem ne_null_of_isNullFree (free : v.isNullFree = true) : v ≠ null := by
  rintro rfl
  cases free

/-! ## Without nulls -/

mutual

/-- A value without the items and fields within it that are null. -/
def withoutNulls : Json → Json
  | arr items => arr (itemsWithoutNulls items)
  | obj fields => obj (fieldsWithoutNulls fields)
  | v => v

def itemsWithoutNulls : List Json → List Json
  | [] => []
  | v :: rest =>
      if v.isNull then itemsWithoutNulls rest else withoutNulls v :: itemsWithoutNulls rest

def fieldsWithoutNulls : List (String × Json) → List (String × Json)
  | [] => []
  | (name, v) :: rest =>
      if v.isNull then fieldsWithoutNulls rest
      else (name, withoutNulls v) :: fieldsWithoutNulls rest

end

theorem mem_itemsWithoutNulls : v ∈ itemsWithoutNulls items ↔
    ∃ item ∈ items, item ≠ null ∧ item.withoutNulls = v := by
  induction items with
  | nil => simp [itemsWithoutNulls]
  | cons item rest ih =>
      rw [itemsWithoutNulls]
      by_cases absent : item = null
      · rw [if_pos (isNull_iff.mpr absent), ih]
        simp [absent]
      · rw [if_neg (mt isNull_iff.mp absent), List.mem_cons, ih]
        simp [absent, eq_comm]

theorem mem_fieldsWithoutNulls {field : String × Json} : field ∈ fieldsWithoutNulls fields ↔
    ∃ old ∈ fields, old.2 ≠ null ∧ (old.1, old.2.withoutNulls) = field := by
  induction fields with
  | nil => simp [fieldsWithoutNulls]
  | cons old rest ih =>
      obtain ⟨name, item⟩ := old
      rw [fieldsWithoutNulls]
      by_cases absent : item = null
      · rw [if_pos (isNull_iff.mpr absent), ih]
        simp [absent]
      · rw [if_neg (mt isNull_iff.mp absent), List.mem_cons, ih]
        simp [absent, eq_comm]

theorem isNullFree_withoutNulls (present : v ≠ null) : v.withoutNulls.isNullFree = true := by
  induction v using Json.induct with
  | null => exact absurd rfl present
  | bool b => rfl
  | int i => rfl
  | float x => rfl
  | str s => rfl
  | arr items ih =>
      refine isNullFree_arr.mpr ?_
      intro w member
      obtain ⟨item, here, kept, rfl⟩ := mem_itemsWithoutNulls.mp member
      exact ih item here kept
  | obj fields ih =>
      refine isNullFree_obj.mpr ?_
      intro field member
      obtain ⟨old, here, kept, rfl⟩ := mem_fieldsWithoutNulls.mp member
      exact ih old here kept

theorem keys_fieldsWithoutNulls :
    ((fieldsWithoutNulls fields).map Prod.fst).Sublist (fields.map Prod.fst) := by
  induction fields with
  | nil => exact List.Sublist.slnil
  | cons old rest ih =>
      obtain ⟨name, item⟩ := old
      rw [fieldsWithoutNulls]
      split
      · exact ih.cons name
      · exact ih.cons_cons name

theorem isOrdered_withoutNulls (ordered : v.isOrdered = true) :
    v.withoutNulls.isOrdered = true := by
  induction v using Json.induct with
  | null => rfl
  | bool b => rfl
  | int i => rfl
  | float x => rfl
  | str s => rfl
  | arr items ih =>
      refine isOrdered_arr.mpr ?_
      intro w member
      obtain ⟨item, here, -, rfl⟩ := mem_itemsWithoutNulls.mp member
      exact ih item here (isOrdered_arr.mp ordered item here)
  | obj fields ih =>
      obtain ⟨sorted, parts⟩ := isOrdered_obj.mp ordered
      have keys : (fields.map Prod.fst).Pairwise fun a b => compare a b = .lt :=
        List.pairwise_map.mpr sorted
      refine isOrdered_obj.mpr ⟨?_, ?_⟩
      · exact List.pairwise_map.mp (keys.sublist keys_fieldsWithoutNulls)
      · intro field member
        obtain ⟨old, here, -, rfl⟩ := mem_fieldsWithoutNulls.mp member
        exact ih old here (parts old here)

/-! ## Values as drafts -/

theorem Draft.items?_ofItems (read : ∀ v ∈ items, (ofValue v).value? = some v) :
    items? (ofItems items) = some items := by
  induction items with
  | nil => rfl
  | cons v rest ih =>
      obtain ⟨first, later⟩ := List.forall_mem_cons.mp read
      rw [ofItems, items?, first, ih later]
      rfl

theorem Draft.members?_ofFields
    (read : ∀ field ∈ fields, (ofValue field.2).value? = some field.2)
    (start : List (String × Json)) :
    members? start (ofFields fields) =
      some (fields.foldl (fun m field => SortedMap.insert m field.1 field.2) start) := by
  induction fields generalizing start with
  | nil => rfl
  | cons field rest ih =>
      obtain ⟨name, v⟩ := field
      have first : (ofValue v).value? = some v := read (name, v) List.mem_cons_self
      rw [ofFields]
      unfold members?
      rw [first]
      exact ih (fun field later => read field (List.mem_cons_of_mem _ later)) _

/-- The fields of an object are read as they stand. -/
theorem Draft.members?_of_sorted (sorted : SortedMap.Sorted fields)
    (read : ∀ field ∈ fields, (ofValue field.2).value? = some field.2) :
    members? [] (ofFields fields) = some fields := by
  rw [members?_ofFields read]
  exact congrArg some (SortedMap.ofList_of_sorted sorted)

/-- The value of a value as a draft is that value. -/
theorem Draft.value?_ofValue (ordered : v.isOrdered = true) : (ofValue v).value? = some v := by
  induction v using Json.induct with
  | null => rfl
  | bool b => rfl
  | int i => rfl
  | float x => rfl
  | str s => rfl
  | arr items ih =>
      have read := items?_ofItems fun v member => ih v member (isOrdered_arr.mp ordered v member)
      rw [ofValue, value?, if_pos rfl, read]
      rfl
  | obj fields ih =>
      obtain ⟨sorted, parts⟩ := isOrdered_obj.mp ordered
      have read := members?_of_sorted sorted fun field member =>
        ih field member (parts field member)
      rw [ofValue, value?, if_pos rfl, read]
      rfl

end RecordGraph.Json
