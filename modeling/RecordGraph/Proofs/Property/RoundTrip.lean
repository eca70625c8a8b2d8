import RecordGraph.Proofs.Property.Reading
import RecordGraph.Proofs.Decode.Shape
import RecordGraph.Proofs.Double.Whole
import RecordGraph.Proofs.Urn.Text

/-!
# Writing properties and reading them back

A property whose floats are finite is written without nulls and read back as it was, by
coercion and by the strict reader. Whatever was read has finite floats, so a record that was
read once is read again from what it is written as.
-/

namespace RecordGraph

open Json (Draft)

namespace PropertyValue

/-- What holds of a property if it holds of its parts holds of all properties. -/
theorem induct {P : PropertyValue → Prop} (bool : ∀ b, P (bool b)) (int : ∀ i, P (int i))
    (float : ∀ x, P (float x)) (str : ∀ s, P (str s))
    (list : ∀ items, (∀ p ∈ items, P p) → P (list items))
    (map : ∀ fields, (∀ field ∈ fields, P field.2) → P (map fields)) (p : PropertyValue) :
    P p := by
  refine @PropertyValue.rec P (fun items => ∀ p ∈ items, P p)
    (fun fields => ∀ field ∈ fields, P field.2) (fun field => P field.2) bool int float str list
    map ?_ ?_ ?_ ?_ ?_ p
  · exact List.forall_mem_nil _
  · intro p rest first later
    exact List.forall_mem_cons.mpr ⟨first, later⟩
  · exact List.forall_mem_nil _
  · intro field rest first later
    exact List.forall_mem_cons.mpr ⟨first, later⟩
  · intro name p holds
    exact holds

/-! ## Finite floats -/

mutual

/-- Whether every float within a value is finite. -/
def isFinite : PropertyValue → Bool
  | float x => x.isFinite
  | list items => itemsFinite items
  | map fields => fieldsFinite fields
  | _ => true

def itemsFinite : List PropertyValue → Bool
  | [] => true
  | p :: rest => isFinite p && itemsFinite rest

def fieldsFinite : List (String × PropertyValue) → Bool
  | [] => true
  | (_, p) :: rest => isFinite p && fieldsFinite rest

end

variable {items : List PropertyValue} {fields : List (String × PropertyValue)}

theorem isFinite_list : (list items).isFinite = true ↔ ∀ p ∈ items, p.isFinite = true := by
  rw [isFinite]
  induction items with
  | nil => simp [itemsFinite]
  | cons p rest ih => simp [itemsFinite, ih]

theorem isFinite_map : (map fields).isFinite = true ↔
    ∀ field ∈ fields, field.2.isFinite = true := by
  rw [isFinite]
  induction fields with
  | nil => simp [fieldsFinite]
  | cons field rest ih =>
      obtain ⟨name, p⟩ := field
      simp [fieldsFinite, ih]

theorem isOrdered_list : (list items).isOrdered = true ↔ ∀ p ∈ items, p.isOrdered = true := by
  rw [isOrdered]
  induction items with
  | nil => simp [itemsOrdered]
  | cons p rest ih => simp [itemsOrdered, ih]

theorem isOrdered_map : (map fields).isOrdered = true ↔
    SortedMap.Sorted fields ∧ ∀ field ∈ fields, field.2.isOrdered = true :=
  PropertyMap.isOrdered_iff (m := fields)

theorem ofItems_eq_filterMap (values : List Json) : ofItems values = values.filterMap ofJson? := by
  induction values with
  | nil => rfl
  | cons v rest ih =>
      rw [ofItems, List.filterMap_cons, ih]
      cases ofJson? v <;> rfl

theorem ofFields_eq_filterMap (values : List (String × Json)) :
    ofFields values = values.filterMap fun field => (ofJson? field.2).map (field.1, ·) := by
  induction values with
  | nil => rfl
  | cons field rest ih =>
      rw [ofFields, List.filterMap_cons, ih]
      cases ofJson? field.2 <;> rfl

/-- A whole number is no infinity, also where it becomes a float. -/
theorem isFinite_ofInteger (i : Json.Integer) : (ofInteger i).isFinite = true := by
  unfold ofInteger
  cases found : Numeral.word? i.val with
  | some w => rfl
  | none =>
      have beyond := word?_eq_none_iff.mp found
      have below := i.upper
      exact Double.isFinite_ofNat (by omega) (by omega)

/-- What comes from JSON has finite floats. -/
theorem isFinite_ofJson? {v : Json} {p : PropertyValue} (found : ofJson? v = some p) :
    p.isFinite = true := by
  induction v using Json.induct generalizing p with
  | null => cases found
  | bool b => cases found; rfl
  | int i => cases found; exact isFinite_ofInteger i
  | float x => cases found; exact x.finite
  | str s => cases found; rfl
  | arr values ih =>
      cases found
      refine isFinite_list.mpr ?_
      intro p member
      rw [ofItems_eq_filterMap] at member
      obtain ⟨v, here, read⟩ := List.mem_filterMap.mp member
      exact ih v here read
  | obj values ih =>
      cases found
      refine isFinite_map.mpr ?_
      intro field member
      have member := SortedMap.mem_of_mem_ofList member
      rw [ofFields_eq_filterMap] at member
      obtain ⟨old, here, read⟩ := List.mem_filterMap.mp member
      obtain ⟨p, found, rfl⟩ := Option.map_eq_some_iff.mp read
      exact ih old here found

/-! ## What is written -/

theorem toItems_eq_map (items : List PropertyValue) : toItems items = items.map toJson := by
  induction items with
  | nil => rfl
  | cons p rest ih => rw [toItems, ih, List.map_cons]

theorem toFields_eq_map (fields : List (String × PropertyValue)) :
    toFields fields = fields.map fun field => (field.1, field.2.toJson) := by
  induction fields with
  | nil => rfl
  | cons field rest ih => rw [toFields, ih, List.map_cons]

theorem toJson_float {x : Double} (finite : x.isFinite = true) :
    (float x).toJson = .float ⟨x, finite⟩ :=
  dif_pos finite

/-- Only a float without a JSON form would be written as a null. -/
theorem isNullFree_toJson {p : PropertyValue} (finite : p.isFinite = true) :
    p.toJson.isNullFree = true := by
  induction p using PropertyValue.induct with
  | bool b => rfl
  | int i => rfl
  | float x =>
      rw [toJson_float finite]
      rfl
  | str s => rfl
  | list items ih =>
      rw [toJson, toItems_eq_map, Json.isNullFree_arr, List.forall_mem_map]
      exact fun p member => ih p member (isFinite_list.mp finite p member)
  | map fields ih =>
      rw [toJson, toFields_eq_map, Json.isNullFree_obj, List.forall_mem_map]
      exact fun field member => ih field member (isFinite_map.mp finite field member)

theorem isOrdered_toJson {p : PropertyValue} (ordered : p.isOrdered = true) :
    p.toJson.isOrdered = true := by
  induction p using PropertyValue.induct with
  | bool b => rfl
  | int i => rfl
  | float x =>
      rw [toJson, Json.ofDouble]
      split <;> rfl
  | str s => rfl
  | list items ih =>
      rw [toJson, toItems_eq_map, Json.isOrdered_arr, List.forall_mem_map]
      exact fun p member => ih p member (isOrdered_list.mp ordered p member)
  | map fields ih =>
      obtain ⟨sorted, parts⟩ := isOrdered_map.mp ordered
      rw [toJson, toFields_eq_map, Json.isOrdered_obj, List.forall_mem_map]
      exact ⟨List.pairwise_map.mpr sorted, fun field member => ih field member (parts field member)⟩

/-! ## What is read back -/

theorem word?_toInt (i : Int64) : Numeral.word? i.toInt = some i := by
  unfold Numeral.word?
  rw [if_pos ⟨Int64.le_toInt i, Int64.toInt_lt i⟩, Int64.ofInt_toInt]

theorem ofInteger_ofInt64 (i : Int64) : ofInteger (Json.Integer.ofInt64 i) = int i := by
  have word : Numeral.word? (Json.Integer.ofInt64 i).val = some i := word?_toInt i
  unfold ofInteger
  rw [word]

theorem ofItems_map (read : ∀ p ∈ items, ofJson? p.toJson = some p) :
    ofItems (items.map toJson) = items := by
  induction items with
  | nil => rfl
  | cons p rest ih =>
      obtain ⟨first, later⟩ := List.forall_mem_cons.mp read
      rw [List.map_cons, ofItems_cons first, ih later]

theorem ofFields_map (read : ∀ field ∈ fields, ofJson? field.2.toJson = some field.2) :
    ofFields (fields.map fun field => (field.1, field.2.toJson)) = fields := by
  induction fields with
  | nil => rfl
  | cons field rest ih =>
      obtain ⟨first, later⟩ := List.forall_mem_cons.mp read
      rw [List.map_cons, ofFields_cons first, ih later]

/-- A property is coerced from what it is written as. -/
theorem ofJson?_toJson {p : PropertyValue} (ordered : p.isOrdered = true)
    (finite : p.isFinite = true) : ofJson? p.toJson = some p := by
  induction p using PropertyValue.induct with
  | bool b => rfl
  | int i => exact congrArg some (ofInteger_ofInt64 i)
  | float x =>
      rw [toJson_float finite]
      rfl
  | str s => rfl
  | list items ih =>
      have read := ofItems_map fun p member =>
        ih p member (isOrdered_list.mp ordered p member) (isFinite_list.mp finite p member)
      rw [toJson, toItems_eq_map, ofJson?, read]
  | map fields ih =>
      obtain ⟨sorted, parts⟩ := isOrdered_map.mp ordered
      have read := ofFields_map fun field member =>
        ih field member (parts field member) (isFinite_map.mp finite field member)
      rw [toJson, toFields_eq_map, ofJson?, read, SortedMap.ofList_of_sorted sorted]

end PropertyValue

/-- Whether every float within a property map is finite. -/
def PropertyMap.isFinite (m : PropertyMap) : Bool := (PropertyValue.map m).isFinite

namespace Properties

/-- The three ways to read properties give them back from what they are written as. -/
structure Survives (p : Properties) : Prop where
  record : Decoder.ofValue Properties.decode p.map.toJson = .ok p
  strict : Decoder.ofValue PropertyMap.decode p.map.toJson = .ok p.map
  object : propertiesOf p.map.toJson = .ok p

theorem ofJson_toFields {p : Properties} (finite : p.map.isFinite = true) :
    Properties.ofJson (PropertyValue.toFields p.map) = p := by
  have read := PropertyValue.ofJson?_toJson (p := .map p.map) p.ordered finite
  have same : PropertyMap.ofJson (PropertyValue.toFields p.map) = p.map :=
    PropertyValue.map.inj (Option.some.inj read)
  obtain ⟨m, ordered⟩ := p
  unfold Properties.ofJson
  simp only [same]

theorem decode_toJson {p : Properties} (finite : p.map.isFinite = true) (source : Source) :
    Properties.decode source (Draft.ofValue p.map.toJson) = .ok p := by
  have ordered := PropertyValue.isOrdered_toJson (p := .map p.map) p.ordered
  exact (Properties.decode_obj ordered source).trans (congrArg Except.ok (ofJson_toFields finite))

theorem survives {p : Properties} (finite : p.map.isFinite = true) : p.Survives where
  record := decode_toJson finite .value
  strict := by
    have ordered := PropertyValue.isOrdered_toJson (p := .map p.map) p.ordered
    have free := PropertyValue.isNullFree_toJson (p := .map p.map) finite
    have same := congrArg Properties.map (ofJson_toFields finite)
    exact (PropertyMap.decode_of_isNullFree ordered free .value).trans (congrArg Except.ok same)
  object := congrArg Except.ok (ofJson_toFields finite)

theorem isFinite_of_decode {p : Properties} {source : Source} {d : Draft}
    (decoded : Properties.decode source d = .ok p) : p.map.isFinite = true := by
  unfold Properties.decode at decoded
  split at decoded
  · split at decoded
    · split at decoded
      · rename_i fields _
        cases decoded
        exact PropertyValue.isFinite_ofJson? (v := .obj fields) rfl
      · cases decoded
    · cases decoded
  · cases decoded

end Properties

/-! ## Records -/

/-- Objects with the same fields, in whatever order each has them. -/
inductive Json.Rearranged : Json → Json → Prop
  | obj {fields fields' : List (String × Json)} (same : fields.Perm fields') :
      Rearranged (.obj fields) (.obj fields')

theorem Urn.decode_toJson (u : Urn) (source : Source) :
    Urn.decode source (Draft.ofValue u.toJson) = .ok u := by
  change (Urn.parse u.text).mapError DecodeError.urn = .ok u
  rw [Urn.parse_text]
  rfl

/-- Found properties come from their decoder, and absent ones are empty. -/
theorem Properties.isFinite_of_yields {p : Properties} (source : Source)
    (yields : some Properties.empty = some p ∨ ∃ d, Properties.decode source d = .ok p) :
    p.map.isFinite = true := by
  rcases yields with absent | ⟨d, decoded⟩
  · cases absent
    rfl
  · exact Properties.isFinite_of_decode decoded

namespace EntityRecord

theorem isFinite_of_decode {r : EntityRecord} {source : Source} {d : Draft}
    (decoded : EntityRecord.decode source d = .ok r) : r.properties.map.isFinite = true := by
  unfold EntityRecord.decode at decoded
  obtain ⟨values, ⟨_, yields, _⟩, built⟩ := Decoder.yields_of_record decoded
  cases built
  exact Properties.isFinite_of_yields source yields

/-- An entity is read back from its fields in any order. -/
theorem decode_of_rearranged {r : EntityRecord} {v : Json}
    (finite : r.properties.map.isFinite = true) (same : v.Rearranged r.toJson)
    (source : Source) : EntityRecord.decode source (Draft.ofValue v) = .ok r := by
  obtain ⟨same⟩ := same
  have member := fun field => (same.mem_iff (a := field)).mpr
  unfold EntityRecord.decode
  refine Decoder.record_of_awaits (r.urn, r.properties, ()) ?_ (same.map Prod.fst)
    ⟨?_, ?_, trivial⟩ rfl
  · simp [Shape.names, Shape.required, Shape.optional]
  · exact Field.awaits_of_mem r.urn.toJson (member _ (by simp)) (Urn.decode_toJson _ source)
  · exact Field.awaits_of_mem r.properties.map.toJson (member _ (by simp))
      (Properties.decode_toJson finite source)

end EntityRecord

namespace RelationshipRecord

theorem isFinite_of_decode {r : RelationshipRecord} {source : Source} {d : Draft}
    (decoded : RelationshipRecord.decode source d = .ok r) :
    r.properties.map.isFinite = true := by
  unfold RelationshipRecord.decode at decoded
  obtain ⟨values, ⟨_, _, _, yields, _⟩, built⟩ := Decoder.yields_of_record decoded
  cases built
  exact Properties.isFinite_of_yields source yields

/-- A relationship is read back from its fields in any order. -/
theorem decode_of_rearranged {r : RelationshipRecord} {v : Json}
    (finite : r.properties.map.isFinite = true) (same : v.Rearranged r.toJson)
    (source : Source) : RelationshipRecord.decode source (Draft.ofValue v) = .ok r := by
  obtain ⟨same⟩ := same
  have member := fun field => (same.mem_iff (a := field)).mpr
  have filterFields : Decoder.list .str source
      (Draft.ofValue (.arr (r.filterFields.map .str))) = .ok r.filterFields :=
    Decoder.list_of_forall (fun _ => rfl) r.filterFields
  unfold RelationshipRecord.decode
  refine Decoder.record_of_awaits
    (r.label, r.source, r.destination, r.properties, r.filterFields, ()) ?_ (same.map Prod.fst)
    ⟨?_, ?_, ?_, ?_, ?_, trivial⟩ rfl
  · simp [Shape.names, Shape.required, Shape.optional]
  · exact Field.awaits_of_mem (.str r.label) (member _ (by simp)) rfl
  · exact Field.awaits_of_mem r.source.toJson (member _ (by simp)) (Urn.decode_toJson _ source)
  · exact Field.awaits_of_mem r.destination.toJson (member _ (by simp))
      (Urn.decode_toJson _ source)
  · exact Field.awaits_of_mem r.properties.map.toJson (member _ (by simp))
      (Properties.decode_toJson finite source)
  · exact Field.awaits_of_mem (.arr (r.filterFields.map .str)) (member _ (by simp))
      filterFields

end RelationshipRecord

/-- Reading undoes writing: for properties with finite floats, for records with such
properties, and for every record that was itself read. -/
theorem Decoder.undoes_writing :
    (∀ p : Properties, p.map.isFinite = true → p.Survives) ∧
    (∀ (r : EntityRecord) (v : Json), r.properties.map.isFinite = true →
      v.Rearranged r.toJson → Decoder.ofValue EntityRecord.decode v = .ok r) ∧
    (∀ (r : RelationshipRecord) (v : Json), r.properties.map.isFinite = true →
      v.Rearranged r.toJson → Decoder.ofValue RelationshipRecord.decode v = .ok r) ∧
    (∀ source d (r : EntityRecord) v, EntityRecord.decode source d = .ok r →
      v.Rearranged r.toJson → Decoder.ofValue EntityRecord.decode v = .ok r) ∧
    (∀ source d (r : RelationshipRecord) v, RelationshipRecord.decode source d = .ok r →
      v.Rearranged r.toJson → Decoder.ofValue RelationshipRecord.decode v = .ok r) := by
  refine ⟨?_, ?_, ?_, ?_, ?_⟩
  · intro p finite
    exact Properties.survives finite
  · intro r v finite same
    exact EntityRecord.decode_of_rearranged finite same .value
  · intro r v finite same
    exact RelationshipRecord.decode_of_rearranged finite same .value
  · intro source d r v decoded same
    exact EntityRecord.decode_of_rearranged (EntityRecord.isFinite_of_decode decoded) same .value
  · intro source d r v decoded same
    exact RelationshipRecord.decode_of_rearranged
      (RelationshipRecord.isFinite_of_decode decoded) same .value

/-- A whole number and a float of the same value, the negative zero, and the two empty
containers. -/
def Properties.alike : Properties where
  map := [("a", .int 1), ("b", .float ⟨0x3ff0000000000000⟩), ("c", .float ⟨0x8000000000000000⟩),
    ("d", .list []), ("e", .map [])]
  ordered := by rfl

/-- The fields of a record come in the order of their names, and values that look alike keep
their kinds. -/
theorem Decoder.undoes_writing_alike :
    let written := Json.obj [("properties", Properties.alike.map.toJson),
      ("urn", .str "urn:a:person:ann")]
    Properties.alike.map.isFinite = true ∧ Properties.alike.Survives ∧
      written.Rearranged (EntityRecord.toJson ⟨.ann, .alike⟩) ∧
      Decoder.ofValue EntityRecord.decode written = .ok ⟨.ann, .alike⟩ := by
  intro written
  have finite : Properties.alike.map.isFinite = true := by rfl
  have arranged : written.Rearranged (EntityRecord.toJson ⟨.ann, .alike⟩) := by
    exact .obj (List.Perm.swap _ _ _)
  obtain ⟨survives, entities, -⟩ := undoes_writing
  exact ⟨finite, survives _ finite, arranged, entities _ _ finite arranged⟩

end RecordGraph
