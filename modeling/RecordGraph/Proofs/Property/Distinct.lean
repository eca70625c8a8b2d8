import RecordGraph.Proofs.Property.RoundTrip
import RecordGraph.Proofs.Statement.Meaning

/-!
# Values that become one property

A whole number beyond the signed words becomes the nearest double, which it shares with other
numbers. Nothing else is lost: values without nulls become the same property exactly if they
are the same once such numbers are rounded, and an edge is deleted by a relationship whose
fields are equal to its own after that rounding.
-/

namespace RecordGraph

namespace Json

/-! ## Rounding -/

mutual

/-- A value in which every whole number beyond the signed words is the nearest double. -/
def rounded : Json → Json
  | int i =>
      if i.val < 0x8000000000000000 then int i else ofDouble (Double.ofNat false i.val.toNat)
  | arr items => arr (itemsRounded items)
  | obj fields => obj (fieldsRounded fields)
  | v => v

def itemsRounded : List Json → List Json
  | [] => []
  | v :: rest => rounded v :: itemsRounded rest

def fieldsRounded : List (String × Json) → List (String × Json)
  | [] => []
  | (name, v) :: rest => (name, rounded v) :: fieldsRounded rest

end

theorem itemsRounded_eq_map (items : List Json) : itemsRounded items = items.map rounded := by
  induction items with
  | nil => rfl
  | cons v rest ih => rw [itemsRounded, ih, List.map_cons]

theorem fieldsRounded_eq_map (fields : List (String × Json)) :
    fieldsRounded fields = fields.map fun field => (field.1, field.2.rounded) := by
  induction fields with
  | nil => rfl
  | cons field rest ih => rw [fieldsRounded, ih, List.map_cons]

/-- Whether every whole number within a value is a signed word. -/
def isSigned (v : Json) : Bool :=
  v.everywhere fun
    | int i => decide (i.val < 0x8000000000000000)
    | _ => true

/-- There is nothing to round among signed words. -/
theorem rounded_of_isSigned {v : Json} (signed : v.isSigned = true) : v.rounded = v := by
  induction v using Json.induct with
  | null => rfl
  | bool b => rfl
  | int i => exact if_pos (of_decide_eq_true signed)
  | float x => rfl
  | str s => rfl
  | arr items ih =>
      have parts := (everywhere_arr.mp signed).2
      rw [rounded, itemsRounded_eq_map, List.map_congr_left fun v member =>
        ih v member (parts v member), List.map_id']
  | obj fields ih =>
      have parts := (everywhere_obj.mp signed).2
      have same : (fields.map fun field => (field.1, field.2.rounded)) = fields :=
        (List.map_congr_left fun field member =>
          congrArg (Prod.mk field.1) (ih field member (parts field member))).trans
            (List.map_id fields)
      rw [rounded, fieldsRounded_eq_map, same]

/-! ## Equality -/

mutual

/-- Equality of JSON values: doubles compare as numbers, so that the two zeros are equal, and
a whole number never equals a double. -/
def equal : Json → Json → Bool
  | null, null => true
  | bool a, bool b => a == b
  | int a, int b => a.val == b.val
  | float a, float b => a.toDouble.equal b.toDouble
  | str a, str b => a == b
  | arr as, arr bs => equalItems as bs
  | obj as, obj bs => equalFields as bs
  | _, _ => false

def equalItems : List Json → List Json → Bool
  | [], [] => true
  | a :: as, b :: bs => equal a b && equalItems as bs
  | _, _ => false

def equalFields : List (String × Json) → List (String × Json) → Bool
  | [], [] => true
  | (k, a) :: as, (l, b) :: bs => k == l && equal a b && equalFields as bs
  | _, _ => false

end

end Json

namespace PropertyValue

theorem equalItems_map {as bs : List PropertyValue}
    (same : ∀ p ∈ as, ∀ q ∈ bs, p.toJson.equal q.toJson = p.equal q) :
    Json.equalItems (as.map toJson) (bs.map toJson) = equalItems as bs := by
  induction as generalizing bs with
  | nil => cases bs <;> rfl
  | cons p ps ih =>
      cases bs with
      | nil => rfl
      | cons q qs =>
          rw [List.map_cons, List.map_cons, Json.equalItems, equalItems,
            same p List.mem_cons_self q List.mem_cons_self,
            ih fun p here q there =>
              same p (List.mem_cons_of_mem _ here) q (List.mem_cons_of_mem _ there)]

theorem equalFields_map {as bs : List (String × PropertyValue)}
    (same : ∀ p ∈ as, ∀ q ∈ bs, p.2.toJson.equal q.2.toJson = p.2.equal q.2) :
    Json.equalFields (as.map fun field => (field.1, field.2.toJson))
      (bs.map fun field => (field.1, field.2.toJson)) = equalFields as bs := by
  induction as generalizing bs with
  | nil => cases bs <;> rfl
  | cons p ps ih =>
      cases bs with
      | nil => rfl
      | cons q qs =>
          rw [List.map_cons, List.map_cons, Json.equalFields, equalFields,
            same p List.mem_cons_self q List.mem_cons_self,
            ih fun p here q there =>
              same p (List.mem_cons_of_mem _ here) q (List.mem_cons_of_mem _ there)]

/-- Properties are equal if what they are written as is. -/
theorem equal_toJson {p q : PropertyValue} (left : p.isFinite = true)
    (right : q.isFinite = true) : p.toJson.equal q.toJson = p.equal q := by
  induction p using PropertyValue.induct generalizing q with
  | bool a =>
      cases q with
      | float y => rw [toJson_float right]; rfl
      | _ => rfl
  | int a =>
      cases q with
      | int b =>
          change (a.toInt == b.toInt) = (a == b)
          rw [Bool.eq_iff_iff, beq_iff_eq, beq_iff_eq]
          exact Int64.toInt_inj
      | float y => rw [toJson_float right]; rfl
      | _ => rfl
  | float x =>
      rw [toJson_float left]
      cases q with
      | float y => rw [toJson_float right]; rfl
      | _ => rfl
  | str a =>
      cases q with
      | float y => rw [toJson_float right]; rfl
      | _ => rfl
  | list as ih =>
      cases q with
      | float y => rw [toJson_float right]; rfl
      | list bs =>
          have parts := equalItems_map fun p here q there =>
            ih p here (isFinite_list.mp left p here) (isFinite_list.mp right q there)
          rw [toJson, toJson, toItems_eq_map, toItems_eq_map]
          exact parts
      | _ => rfl
  | map as ih =>
      cases q with
      | float y => rw [toJson_float right]; rfl
      | map bs =>
          have parts := equalFields_map fun p here q there =>
            ih p here (isFinite_map.mp left p here) (isFinite_map.mp right q there)
          rw [toJson, toJson, toFields_eq_map, toFields_eq_map]
          exact parts
      | _ => rfl

/-! ## Coercion rounds -/

theorem toJson_ofInteger (i : Json.Integer) : (ofInteger i).toJson = (Json.int i).rounded := by
  rw [Json.rounded]
  unfold ofInteger
  cases found : Numeral.word? i.val with
  | none => exact (if_neg (Int.not_lt.mpr (word?_eq_none_iff.mp found))).symm
  | some w =>
      have below : i.val < 0x8000000000000000 := by
        rw [← Int.not_le, ← word?_eq_none_iff, found]
        exact Option.some_ne_none w
      have same : w.toInt = i.val := by
        unfold Numeral.word? at found
        split at found
        · rename_i fits
          cases found
          exact Int64.toInt_ofInt_of_le fits.1 fits.2
        · cases found
      rw [if_pos below]
      obtain ⟨k, lower, upper⟩ := i
      cases same
      rfl

theorem toItems_ofItems {items : List Json}
    (read : ∀ v ∈ items, ∃ p, ofJson? v = some p ∧ p.toJson = v.rounded) :
    toItems (ofItems items) = Json.itemsRounded items := by
  induction items with
  | nil => rfl
  | cons v rest ih =>
      obtain ⟨⟨p, found, written⟩, later⟩ := List.forall_mem_cons.mp read
      rw [ofItems_cons found, toItems, Json.itemsRounded, written, ih later]

theorem toFields_ofFields {fields : List (String × Json)}
    (read : ∀ field ∈ fields, ∃ p, ofJson? field.2 = some p ∧ p.toJson = field.2.rounded) :
    toFields (ofFields fields) = Json.fieldsRounded fields := by
  induction fields with
  | nil => rfl
  | cons field rest ih =>
      obtain ⟨name, v⟩ := field
      obtain ⟨⟨p, found, written⟩, later⟩ := List.forall_mem_cons.mp read
      rw [ofFields_cons found, toFields, Json.fieldsRounded, written, ih later]

/-- Without nulls every field is kept, and so is their order. -/
theorem sorted_ofFields {fields : List (String × Json)} (sorted : SortedMap.Sorted fields)
    (present : ∀ field ∈ fields, ∃ p, ofJson? field.2 = some p) :
    SortedMap.Sorted (ofFields fields) := by
  have names : (ofFields fields).map Prod.fst = fields.map Prod.fst := by
    clear sorted
    induction fields with
    | nil => rfl
    | cons field rest ih =>
        obtain ⟨⟨p, found⟩, later⟩ := List.forall_mem_cons.mp present
        rw [ofFields_cons found, List.map_cons, List.map_cons, ih later]
  have increasing : (fields.map Prod.fst).Pairwise fun a b => compare a b = .lt :=
    List.pairwise_map.mpr sorted
  exact List.pairwise_map.mp (names ▸ increasing)

/-- What a value without nulls becomes is written as the value with its numbers rounded. -/
theorem toJson_of_isNullFree {v : Json} (ordered : v.isOrdered = true)
    (free : v.isNullFree = true) : ∃ p, ofJson? v = some p ∧ p.toJson = v.rounded := by
  induction v using Json.induct with
  | null => cases free
  | bool b => exact ⟨_, rfl, rfl⟩
  | int i => exact ⟨_, rfl, toJson_ofInteger i⟩
  | float x => exact ⟨_, rfl, toJson_float x.finite⟩
  | str s => exact ⟨_, rfl, rfl⟩
  | arr items ih =>
      have read := toItems_ofItems fun v member =>
        ih v member (Json.isOrdered_arr.mp ordered v member) (Json.isNullFree_arr.mp free v member)
      exact ⟨_, rfl, congrArg Json.arr read⟩
  | obj fields ih =>
      obtain ⟨sorted, parts⟩ := Json.isOrdered_obj.mp ordered
      have each := fun field member =>
        ih field member (parts field member) (Json.isNullFree_obj.mp free field member)
      have kept := SortedMap.ofList_of_sorted (sorted_ofFields sorted fun field member =>
        (each field member).imp fun _ read => read.1)
      refine ⟨_, rfl, ?_⟩
      rw [kept, toJson, toFields_ofFields each, Json.rounded]

variable {a b : Json}

/-- Values without nulls become the same property if they are the same once rounded. -/
theorem ofJson?_eq_ofJson?_iff (orderedLeft : a.isOrdered = true)
    (orderedRight : b.isOrdered = true) (freeLeft : a.isNullFree = true)
    (freeRight : b.isNullFree = true) : ofJson? a = ofJson? b ↔ a.rounded = b.rounded := by
  obtain ⟨p, left, writtenLeft⟩ := toJson_of_isNullFree orderedLeft freeLeft
  obtain ⟨q, right, writtenRight⟩ := toJson_of_isNullFree orderedRight freeRight
  rw [← writtenLeft, ← writtenRight]
  constructor
  · intro same
    exact congrArg toJson (Option.some.inj (left.symm.trans (same.trans right)))
  · intro same
    have back {v : Json} {r : PropertyValue} (found : ofJson? v = some r) :
        ofJson? r.toJson = some r :=
      ofJson?_toJson (isOrdered_ofJson? found) (isFinite_ofJson? found)
    rw [left, right, ← back left, ← back right, same]

/-- Values without nulls become equal properties if they are equal once rounded. -/
theorem equal_of_ofJson? {p q : PropertyValue} (orderedLeft : a.isOrdered = true)
    (orderedRight : b.isOrdered = true) (freeLeft : a.isNullFree = true)
    (freeRight : b.isNullFree = true) (left : ofJson? a = some p) (right : ofJson? b = some q) :
    p.equal q = a.rounded.equal b.rounded := by
  obtain ⟨p', left', writtenLeft⟩ := toJson_of_isNullFree orderedLeft freeLeft
  obtain ⟨q', right', writtenRight⟩ := toJson_of_isNullFree orderedRight freeRight
  cases left.symm.trans left'
  cases right.symm.trans right'
  rw [← equal_toJson (isFinite_ofJson? left) (isFinite_ofJson? right), writtenLeft, writtenRight]

/-- Large whole numbers become one property if they round to one multiple of 2048. -/
theorem ofInteger_eq_ofInteger_iff {i j : Json.Integer} (largeLeft : 0x8000000000000000 ≤ i.val)
    (largeRight : 0x8000000000000000 ≤ j.val) :
    ofInteger i = ofInteger j ↔
      roundHalfEven i.val.toNat 2048 = roundHalfEven j.val.toNat 2048 := by
  have left := i.upper
  have right := j.upper
  rw [← Double.ofNat_eq_ofNat_iff (by omega) (by omega) (by omega) (by omega)]
  unfold ofInteger
  rw [word?_eq_none_iff.mpr largeLeft, word?_eq_none_iff.mpr largeRight]
  exact ⟨float.inj, congrArg float⟩

theorem get?_ofFields {fields : List (String × Json)}
    (present : ∀ field ∈ fields, ∃ p, ofJson? field.2 = some p) (name : String) :
    SortedMap.get? (ofFields fields) name = (SortedMap.get? fields name).bind ofJson? := by
  induction fields with
  | nil => rfl
  | cons field rest ih =>
      obtain ⟨⟨p, found⟩, later⟩ := List.forall_mem_cons.mp present
      rw [ofFields_cons found, SortedMap.get?_cons, SortedMap.get?_cons, ih later]
      split
      · exact found.symm
      · rfl

end PropertyValue

/-! ## Deleting edges -/

/-- A JSON object as it can stand for the properties of a record, without any null. -/
structure Json.IsRecord (fields : List (String × Json)) : Prop where
  ordered : (Json.obj fields).isOrdered = true
  free : (Json.obj fields).isNullFree = true

namespace Json.IsRecord

variable {fields : List (String × Json)} {name : String} {v : Json}

theorem coerced (record : IsRecord fields) (found : SortedMap.get? fields name = some v) :
    ∃ p, PropertyValue.ofJson? v = some p := by
  have free := Json.isNullFree_obj.mp record.free _ (SortedMap.mem_of_get? found)
  exact PropertyValue.exists_ofJson? (Json.ne_null_of_isNullFree free)

/-- Each property of a record is what its field becomes. -/
theorem get?_ofJson (record : IsRecord fields) (name : String) :
    SortedMap.get? (Properties.ofJson fields).map name =
      (SortedMap.get? fields name).bind PropertyValue.ofJson? := by
  have present : ∀ field ∈ fields, ∃ p, PropertyValue.ofJson? field.2 = some p := by
    intro field member
    exact PropertyValue.exists_ofJson?
      (Json.ne_null_of_isNullFree (Json.isNullFree_obj.mp record.free field member))
  have kept := SortedMap.ofList_of_sorted
    (PropertyValue.sorted_ofFields (Json.isOrdered_obj.mp record.ordered).1 present)
  change SortedMap.get? (SortedMap.ofList (PropertyValue.ofFields fields)) name = _
  rw [kept]
  exact PropertyValue.get?_ofFields present name

/-- Properties of two records are equal if their fields are once rounded. -/
theorem equal {fields' : List (String × Json)} {v' : Json} {p q : PropertyValue}
    (record : IsRecord fields) (record' : IsRecord fields')
    (found : SortedMap.get? fields name = some v) (found' : SortedMap.get? fields' name = some v')
    (left : PropertyValue.ofJson? v = some p) (right : PropertyValue.ofJson? v' = some q) :
    p.equal q = v.rounded.equal v'.rounded := by
  have member := SortedMap.mem_of_get? found
  have member' := SortedMap.mem_of_get? found'
  exact PropertyValue.equal_of_ofJson? ((Json.isOrdered_obj.mp record.ordered).2 _ member)
    ((Json.isOrdered_obj.mp record'.ordered).2 _ member')
    (Json.isNullFree_obj.mp record.free _ member)
    (Json.isNullFree_obj.mp record'.free _ member') left right

end Json.IsRecord

/-- Whether the fields of a record that are named have equal values in another, as far as it
has them and once numbers are rounded. -/
def Json.Agree (names : List String) (old new : List (String × Json)) : Prop :=
  ∀ name ∈ names, ∀ v, SortedMap.get? new name = some v →
    ∃ w, SortedMap.get? old name = some w ∧ w.rounded.equal v.rounded = true

/-- An edge satisfies the values that a map has under some names if it has equal ones there. -/
theorem Edge.satisfies_valuesOf_iff {e : Edge} {m : PropertyMap} {names : List String} :
    e.satisfies (Statement.valuesOf m names) = true ↔
      ∀ name ∈ names, ∀ q, SortedMap.get? m name = some q →
        ∃ p, SortedMap.get? e.properties name = some p ∧ p.equal q = true := by
  unfold Edge.satisfies
  rw [List.all_eq_true]
  constructor
  · intro satisfied name named q found
    have holds := satisfied (name, q) (Statement.mem_valuesOf.mpr ⟨named, found⟩)
    dsimp only at holds
    cases stored : SortedMap.get? e.properties name with
    | none =>
        rw [stored] at holds
        cases holds
    | some p =>
        rw [stored] at holds
        exact ⟨p, rfl, holds⟩
  · rintro equal ⟨name, q⟩ member
    obtain ⟨named, found⟩ := Statement.mem_valuesOf.mp member
    obtain ⟨p, stored, holds⟩ := equal name named q found
    dsimp only
    rw [stored]
    exact holds

/-- Which edge a relationship removes, in terms of the JSON records of both. -/
theorem Registry.covers_iff {registry : Registry} {written deleted : Relationship}
    {old new : List (String × Json)} (recordLeft : Json.IsRecord old)
    (recordRight : Json.IsRecord new) (left : written.properties = propertiesOf (.obj old))
    (right : deleted.properties = propertiesOf (.obj new)) :
    (registry.selection deleted).covers (registry.edge written) = true ↔
      (registry.edge written).key = (registry.edge deleted).key ∧
        Json.Agree deleted.filterFields old new := by
  have stored : (registry.edge written).properties = (Properties.ofJson old).map :=
    congrArg Statement.carried left
  have wanted : Statement.carried deleted.properties = (Properties.ofJson new).map :=
    congrArg Statement.carried right
  unfold Graph.Selection.covers
  rw [Bool.and_eq_true, decide_eq_true_eq]
  refine and_congr_right fun _ => Edge.satisfies_valuesOf_iff.trans ?_
  rw [stored, wanted]
  constructor
  · intro equal name declared v atNew
    obtain ⟨q, foundRight⟩ := recordRight.coerced atNew
    have asked : SortedMap.get? (Properties.ofJson new).map name = some q := by
      rw [recordRight.get?_ofJson, atNew, Option.bind_some, foundRight]
    obtain ⟨p, found, holds⟩ :=
      equal name (Statement.mem_declaredFields.mpr declared) q asked
    rw [recordLeft.get?_ofJson] at found
    obtain ⟨w, atOld, foundLeft⟩ := Option.bind_eq_some_iff.mp found
    have same := recordLeft.equal recordRight atOld atNew foundLeft foundRight
    exact ⟨w, atOld, same.symm.trans holds⟩
  · intro agree name declared q found
    rw [recordRight.get?_ofJson] at found
    obtain ⟨v, atNew, foundRight⟩ := Option.bind_eq_some_iff.mp found
    obtain ⟨w, atOld, holds⟩ := agree name (Statement.mem_declaredFields.mp declared) v atNew
    obtain ⟨p, foundLeft⟩ := recordLeft.coerced atOld
    refine ⟨p, ?_, (recordLeft.equal recordRight atOld atNew foundLeft foundRight).trans holds⟩
    rw [recordLeft.get?_ofJson, atOld, Option.bind_some, foundLeft]

/-- Coercion loses of values without nulls only what rounding loses: it keeps signed words
apart, merges larger whole numbers exactly if they round to one multiple of 2048, and so decides
which edges are deleted. -/
theorem PropertyValue.alike_iff_rounded {a b : Json} (orderedLeft : a.isOrdered = true)
    (orderedRight : b.isOrdered = true) (freeLeft : a.isNullFree = true)
    (freeRight : b.isNullFree = true) :
    (ofJson? a = ofJson? b ↔ a.rounded = b.rounded) ∧
    (∀ p q, ofJson? a = some p → ofJson? b = some q →
      p.equal q = a.rounded.equal b.rounded) ∧
    (a.isSigned = true → b.isSigned = true → (ofJson? a = ofJson? b ↔ a = b) ∧
      a.rounded.equal b.rounded = a.equal b) ∧
    (∀ i j : Json.Integer, a = .int i → b = .int j → 0x8000000000000000 ≤ i.val →
      0x8000000000000000 ≤ j.val →
      (ofJson? a = ofJson? b ↔
        roundHalfEven i.val.toNat 2048 = roundHalfEven j.val.toNat 2048) ∧
      (ofJson? a = ofJson? b → i.val ≤ j.val + 2048)) ∧
    (∀ (registry : Registry) (written deleted : Relationship) (old new : List (String × Json))
      (s : Statement) (g : Graph), a = .obj old → b = .obj new →
      written.properties = propertiesOf a → deleted.properties = propertiesOf b →
      Statement.deleteEdge registry deleted = .ok s → registry.edge written ∈ g.edges →
      ∃ next, g.apply s = .ok next ∧ (registry.edge written ∉ next.edges ↔
        (registry.edge written).key = (registry.edge deleted).key ∧
          Json.Agree deleted.filterFields old new)) := by
  have alike := ofJson?_eq_ofJson?_iff orderedLeft orderedRight freeLeft freeRight
  refine ⟨alike, ?_, ?_, ?_, ?_⟩
  · intro p q left right
    exact equal_of_ofJson? orderedLeft orderedRight freeLeft freeRight left right
  · intro signedLeft signedRight
    rw [alike, Json.rounded_of_isSigned signedLeft, Json.rounded_of_isSigned signedRight]
    exact ⟨Iff.rfl, rfl⟩
  · rintro i j rfl rfl largeLeft largeRight
    have merged := ofInteger_eq_ofInteger_iff largeLeft largeRight
    have whole : ofJson? (.int i) = ofJson? (.int j) ↔ ofInteger i = ofInteger j :=
      Option.some_inj
    refine ⟨whole.trans merged, ?_⟩
    intro same
    have near : i.val.toNat ≤ j.val.toNat + 2048 :=
      apart_of_roundHalfEven (merged.mp (whole.mp same))
    omega
  · rintro registry written deleted old new s g rfl rfl left right built stored
    refine ⟨_, Graph.apply_deleteEdge built g, ?_⟩
    rw [← Registry.covers_iff ⟨orderedLeft, freeLeft⟩ ⟨orderedRight, freeRight⟩ left right,
      Graph.unlink_eq, List.mem_filter]
    simp [stored]

/-- The whole numbers that follow the signed words. -/
def Json.Integer.beyond (k : Fin 4096) : Json.Integer where
  val := 0x8000000000000000 + k.val
  lower := by omega
  upper := by omega

/-- Ann knows Bob, with a number that tells this edge from others. -/
def Relationship.numbered (n : Json.Integer) : Relationship where
  label := "KNOWS"
  source := .ann
  destination := .bob
  properties := propertiesOf (.obj [("id", .int n)])
  filterFields := ["id"]

/-- Numbers that are 2048 apart tell edges apart also beyond the signed words. -/
theorem PropertyValue.alike_iff_rounded_numbered :
    ofJson? (.int (.beyond 0)) ≠ ofJson? (.int (.beyond 2048)) ∧
    ∃ s next, Statement.deleteEdge Registry.empty (.numbered (.beyond 2048)) = .ok s ∧
      Graph.apply ⟨[], [Registry.empty.edge (.numbered (.beyond 0))]⟩ s = .ok next ∧
      Registry.empty.edge (.numbered (.beyond 0)) ∈ next.edges := by
  obtain ⟨-, -, -, numbers, -⟩ := alike_iff_rounded (a := .int (.beyond 0))
    (b := .int (.beyond 2048)) rfl rfl rfl rfl
  obtain ⟨-, -, -, -, edges⟩ := alike_iff_rounded (a := .obj [("id", .int (.beyond 0))])
    (b := .obj [("id", .int (.beyond 2048))]) rfl rfl rfl rfl
  have merged := (numbers _ _ rfl rfl (by decide) (by decide)).1
  obtain ⟨s, built⟩ : ∃ s,
      Statement.deleteEdge Registry.empty (.numbered (.beyond 2048)) = .ok s := ⟨_, rfl⟩
  obtain ⟨next, done, removed⟩ := edges Registry.empty (.numbered (.beyond 0)) _ _ _ s
    ⟨[], [Registry.empty.edge (.numbered (.beyond 0))]⟩ rfl rfl rfl rfl built List.mem_cons_self
  refine ⟨mt merged.mp (by decide), s, next, built, done, Classical.not_not.mp (mt removed.mp ?_)⟩
  rintro ⟨-, agree⟩
  obtain ⟨w, found, same⟩ := agree "id" List.mem_cons_self _ rfl
  cases found
  cases same

/-- Two numbers next to each other become one property, and the record with the one deletes
the edge that was written for the other. -/
theorem PropertyValue.merges_numbered :
    (Json.int (.beyond 0)).isNullFree = true ∧ (Json.int (.beyond 1)).isNullFree = true ∧
    ofJson? (.int (.beyond 0)) = ofJson? (.int (.beyond 1)) ∧
    Json.int (.beyond 0) ≠ Json.int (.beyond 1) ∧
    (Json.int (.beyond 0)).equal (.int (.beyond 1)) = false ∧
    ∃ ss g s next,
      Statement.addRelationships Registry.empty .none [.numbered (.beyond 0)] = .ok ss ∧
      Graph.empty.applyAll ss = .ok g ∧ g.edges.length = 1 ∧
      Statement.deleteEdge Registry.empty (.numbered (.beyond 1)) = .ok s ∧
      g.apply s = .ok next ∧ next.edges = [] := by
  obtain ⟨ss, added⟩ : ∃ ss,
      Statement.addRelationships Registry.empty .none [.numbered (.beyond 0)] = .ok ss :=
    ⟨_, rfl⟩
  obtain ⟨s, built⟩ : ∃ s,
      Statement.deleteEdge Registry.empty (.numbered (.beyond 1)) = .ok s := ⟨_, rfl⟩
  refine ⟨rfl, rfl, rfl, ?_, rfl, ss, _, s, _, added, Graph.applyAll_addRelationships added _,
    rfl, built, Graph.apply_deleteEdge built _, ?_⟩
  · intro same
    cases same
  · rw [Graph.unlink_eq]
    rfl

end RecordGraph
