import RecordGraph.Decode.Records
import RecordGraph.Proofs.Json.Values

/-!
# Two ways to read properties

A property is read strictly, where each value must fit one of the variants of a property, or
by coercion, which drops the nulls. The two agree on values without nulls, and of any other
value coercion makes what the strict reader makes of it without its nulls.
-/

namespace RecordGraph

open Json (Draft)

namespace PropertyValue

/-! ## Coercion and nulls -/

theorem ofJson?_eq_none_iff {v : Json} : ofJson? v = none ↔ v = .null := by
  cases v <;> simp [ofJson?]

theorem exists_ofJson? {v : Json} (present : v ≠ .null) : ∃ p, ofJson? v = some p :=
  Option.ne_none_iff_exists'.mp (mt ofJson?_eq_none_iff.mp present)

theorem ofItems_cons {v : Json} {p : PropertyValue} (found : ofJson? v = some p)
    (rest : List Json) : ofItems (v :: rest) = p :: ofItems rest := by
  rw [ofItems, found]

theorem ofFields_cons {v : Json} {p : PropertyValue} (found : ofJson? v = some p) (name : String)
    (rest : List (String × Json)) : ofFields ((name, v) :: rest) = (name, p) :: ofFields rest := by
  rw [ofFields, found]

theorem ofItems_withoutNulls {items : List Json}
    (same : ∀ v ∈ items, ofJson? v.withoutNulls = ofJson? v) :
    ofItems (Json.itemsWithoutNulls items) = ofItems items := by
  induction items with
  | nil => rfl
  | cons v rest ih =>
      obtain ⟨first, later⟩ := List.forall_mem_cons.mp same
      rw [Json.itemsWithoutNulls]
      by_cases absent : v = .null
      · rw [if_pos (Json.isNull_iff.mpr absent), ih later, absent]
        rfl
      · obtain ⟨p, found⟩ := exists_ofJson? absent
        rw [if_neg (mt Json.isNull_iff.mp absent), ofItems_cons (first.trans found),
          ofItems_cons found, ih later]

theorem ofFields_withoutNulls {fields : List (String × Json)}
    (same : ∀ field ∈ fields, ofJson? field.2.withoutNulls = ofJson? field.2) :
    ofFields (Json.fieldsWithoutNulls fields) = ofFields fields := by
  induction fields with
  | nil => rfl
  | cons field rest ih =>
      obtain ⟨name, v⟩ := field
      obtain ⟨first, later⟩ := List.forall_mem_cons.mp same
      rw [Json.fieldsWithoutNulls]
      by_cases absent : v = .null
      · rw [if_pos (Json.isNull_iff.mpr absent), ih later, absent]
        rfl
      · obtain ⟨p, found⟩ := exists_ofJson? absent
        rw [if_neg (mt Json.isNull_iff.mp absent), ofFields_cons (first.trans found),
          ofFields_cons found, ih later]

/-- Coercion does not see the nulls within a value. -/
theorem ofJson?_withoutNulls (v : Json) : ofJson? v.withoutNulls = ofJson? v := by
  induction v using Json.induct with
  | null => rfl
  | bool b => rfl
  | int i => rfl
  | float x => rfl
  | str s => rfl
  | arr items ih => exact congrArg (fun ps => some (list ps)) (ofItems_withoutNulls ih)
  | obj fields ih =>
      exact congrArg (fun ps => some (map (SortedMap.ofList ps))) (ofFields_withoutNulls ih)

/-! ## The strict reader -/

/-- The whole numbers without a signed word are those beyond the greatest one. -/
theorem word?_eq_none_iff {i : Json.Integer} :
    Numeral.word? i.val = none ↔ 0x8000000000000000 ≤ i.val := by
  have := i.lower
  unfold Numeral.word?
  split
  · simp only [reduceCtorEq, false_iff]
    omega
  · simp only [true_iff]
    omega

/-- The variants are tried in an order that gives a whole number its word, and only one without
a word its double. -/
theorem ofDraft?_int (i : Json.Integer) : ofDraft? (.int i) = some (ofInteger i) := by
  have tried : ofDraft? (.int i) =
      (((Numeral.word? i.val).map int).or
        (some (float (Double.ofNat (decide (i.val < 0)) i.val.natAbs)))).or none := rfl
  rw [tried, Option.or_none]
  unfold ofInteger
  cases found : Numeral.word? i.val with
  | some w => rfl
  | none =>
      have beyond := word?_eq_none_iff.mp found
      have sign : decide (i.val < 0) = false := decide_eq_false (by omega)
      have size : i.val.natAbs = i.val.toNat := by omega
      rw [sign, size]
      rfl

theorem ofDraftItems?_of_some {items : List Json}
    (read : ∀ v ∈ items, ∃ p, ofJson? v = some p ∧ ofDraft? (Draft.ofValue v) = some p) :
    ofDraftItems? (Draft.ofItems items) = some (ofItems items) := by
  induction items with
  | nil => rfl
  | cons v rest ih =>
      obtain ⟨⟨p, found, drafted⟩, later⟩ := List.forall_mem_cons.mp read
      rw [Draft.ofItems, ofDraftItems?, drafted, ih later, ofItems_cons found]
      rfl

theorem ofDraftMembers?_of_some {fields : List (String × Json)}
    (read : ∀ field ∈ fields,
      ∃ p, ofJson? field.2 = some p ∧ ofDraft? (Draft.ofValue field.2) = some p)
    (start : List (String × PropertyValue)) :
    ofDraftMembers? start (Draft.ofFields fields) =
      some ((ofFields fields).foldl (fun m field => SortedMap.insert m field.1 field.2) start) := by
  induction fields generalizing start with
  | nil => rfl
  | cons field rest ih =>
      obtain ⟨name, v⟩ := field
      obtain ⟨⟨p, found, drafted⟩, later⟩ := List.forall_mem_cons.mp read
      rw [Draft.ofFields, ofFields_cons found]
      unfold ofDraftMembers?
      rw [drafted]
      exact ih later _

/-- On a value without nulls the strict reader does what coercion does. -/
theorem ofDraft?_of_isNullFree {v : Json} (free : v.isNullFree = true) :
    ∃ p, ofJson? v = some p ∧ ofDraft? (Draft.ofValue v) = some p := by
  induction v using Json.induct with
  | null => cases free
  | bool b => exact ⟨_, rfl, rfl⟩
  | int i => exact ⟨_, rfl, ofDraft?_int i⟩
  | float x => exact ⟨_, rfl, rfl⟩
  | str s => exact ⟨_, rfl, rfl⟩
  | arr items ih =>
      have read := ofDraftItems?_of_some fun v member =>
        ih v member (Json.isNullFree_arr.mp free v member)
      exact ⟨_, rfl, congrArg (Option.map list) read⟩
  | obj fields ih =>
      have read := ofDraftMembers?_of_some (fun field member =>
        ih field member (Json.isNullFree_obj.mp free field member)) []
      exact ⟨_, rfl, congrArg (Option.map map) read⟩

theorem ofDraftItems?_of_none {items : List Json} {v : Json} (member : v ∈ items)
    (unfit : ofDraft? (Draft.ofValue v) = none) : ofDraftItems? (Draft.ofItems items) = none := by
  induction items with
  | nil => cases member
  | cons first rest ih =>
      rw [Draft.ofItems, ofDraftItems?]
      rcases List.mem_cons.mp member with rfl | later
      · rw [unfit]
        rfl
      · rw [ih later]
        cases ofDraft? (Draft.ofValue first) <;> rfl

theorem ofDraftMembers?_of_none {fields : List (String × Json)} {field : String × Json}
    (member : field ∈ fields) (unfit : ofDraft? (Draft.ofValue field.2) = none)
    (start : List (String × PropertyValue)) :
    ofDraftMembers? start (Draft.ofFields fields) = none := by
  induction fields generalizing start with
  | nil => cases member
  | cons first rest ih =>
      rw [Draft.ofFields]
      unfold ofDraftMembers?
      rcases List.mem_cons.mp member with rfl | later
      · rw [unfit]
      · cases ofDraft? (Draft.ofValue first.2) with
        | none => rfl
        | some p => exact ih later _

/-- No variant fits a null, so neither does one fit a value with a null inside. -/
theorem ofDraft?_of_null {v : Json} (null : v.isNullFree = false) :
    ofDraft? (Draft.ofValue v) = none := by
  induction v using Json.induct with
  | null => rfl
  | bool b => cases null
  | int i => cases null
  | float x => cases null
  | str s => cases null
  | arr items ih =>
      obtain ⟨v, member, nullInside⟩ := Json.isNullFree_arr_eq_false.mp null
      have read := ofDraftItems?_of_none member (ih v member nullInside)
      exact congrArg (Option.map list) read
  | obj fields ih =>
      obtain ⟨field, member, nullInside⟩ := Json.isNullFree_obj_eq_false.mp null
      have read := ofDraftMembers?_of_none member (ih field member nullInside) []
      exact congrArg (Option.map map) read

theorem decode_of_isNullFree {v : Json} (ordered : v.isOrdered = true)
    (free : v.isNullFree = true) (source : Source) :
    ∃ p, ofJson? v = some p ∧ decode source (Draft.ofValue v) = .ok p := by
  obtain ⟨p, found, drafted⟩ := ofDraft?_of_isNullFree free
  refine ⟨p, found, ?_⟩
  unfold decode
  rw [Draft.value?_ofValue ordered, drafted]
  rfl

theorem decode_of_null {v : Json} (ordered : v.isOrdered = true) (null : v.isNullFree = false)
    (source : Source) : decode source (Draft.ofValue v) = .error .noProperty := by
  unfold decode
  rw [Draft.value?_ofValue ordered, ofDraft?_of_null null]
  rfl

end PropertyValue

/-! ## Maps of properties -/

/-- The fields of an object as the properties of a record. -/
theorem Properties.decode_obj {fields : List (String × Json)}
    (ordered : (Json.obj fields).isOrdered = true) (source : Source) :
    Properties.decode source (Draft.ofValue (.obj fields)) = .ok (Properties.ofJson fields) := by
  obtain ⟨sorted, parts⟩ := Json.isOrdered_obj.mp ordered
  have read := Draft.members?_of_sorted sorted fun field member =>
    Draft.value?_ofValue (parts field member)
  unfold Properties.decode
  rw [Draft.ofValue]
  simp only [↓reduceIte]
  rw [read]

namespace PropertyMap

open PropertyValue (ofJson? ofFields ofFields_cons)

theorem decodeMembers_of_ok {source : Source} {fields : List (String × Json)}
    (read : ∀ field ∈ fields, ∃ p, ofJson? field.2 = some p ∧
      PropertyValue.decode source (Draft.ofValue field.2) = .ok p)
    (start : PropertyMap) :
    decodeMembers source start (Draft.ofFields fields) =
      .ok ((ofFields fields).foldl (fun m field => SortedMap.insert m field.1 field.2) start) := by
  induction fields generalizing start with
  | nil => rfl
  | cons field rest ih =>
      obtain ⟨name, v⟩ := field
      obtain ⟨⟨p, found, decoded⟩, later⟩ := List.forall_mem_cons.mp read
      rw [Draft.ofFields, ofFields_cons found, decodeMembers, decoded]
      exact ih later _

/-- Members are decoded in order, and the first with a null inside is the error. -/
theorem decodeMembers_of_null {source : Source} {fields : List (String × Json)}
    (ordered : ∀ field ∈ fields, field.2.isOrdered = true) {field : String × Json}
    (member : field ∈ fields) (null : field.2.isNullFree = false) (start : PropertyMap) :
    decodeMembers source start (Draft.ofFields fields) = .error .noProperty := by
  induction fields generalizing start with
  | nil => cases member
  | cons first rest ih =>
      obtain ⟨orderedFirst, orderedRest⟩ := List.forall_mem_cons.mp ordered
      rw [Draft.ofFields, decodeMembers]
      cases free : first.2.isNullFree with
      | false =>
          rw [PropertyValue.decode_of_null orderedFirst free]
          rfl
      | true =>
          obtain ⟨p, -, decoded⟩ := PropertyValue.decode_of_isNullFree orderedFirst free source
          have later : field ∈ rest := by
            rcases List.mem_cons.mp member with rfl | later
            · cases free.symm.trans null
            · exact later
          rw [decoded]
          exact ih orderedRest later _

theorem decode_of_isNullFree {fields : List (String × Json)}
    (ordered : (Json.obj fields).isOrdered = true) (free : (Json.obj fields).isNullFree = true)
    (source : Source) :
    decode source (Draft.ofValue (.obj fields)) = .ok (PropertyMap.ofJson fields) := by
  have read := decodeMembers_of_ok (fun field member =>
    PropertyValue.decode_of_isNullFree ((Json.isOrdered_obj.mp ordered).2 field member)
      (Json.isNullFree_obj.mp free field member) source) []
  change (decodeMembers source [] (Draft.ofFields fields) >>= fun m => .ok m) = _
  rw [read]
  rfl

theorem decode_of_null {fields : List (String × Json)}
    (ordered : (Json.obj fields).isOrdered = true) (null : (Json.obj fields).isNullFree = false)
    (source : Source) :
    decode source (Draft.ofValue (.obj fields)) = .error .noProperty := by
  obtain ⟨field, member, nullInside⟩ := Json.isNullFree_obj_eq_false.mp null
  have read : decodeMembers source [] (Draft.ofFields fields) = .error .noProperty :=
    decodeMembers_of_null (Json.isOrdered_obj.mp ordered).2 member nullInside []
  change (decodeMembers source [] (Draft.ofFields fields) >>= fun m => .ok m) = _
  rw [read]
  rfl

/-- How the readers of an object differ: the strict one fails on nulls, and the others give
what it gives without them. -/
structure ReadersAgree (fields : List (String × Json)) : Prop where
  strict : Decoder.ofValue decode (.obj fields) =
    if (Json.obj fields).isNullFree then .ok (PropertyMap.ofJson fields) else .error .noProperty
  withoutNulls : Decoder.ofValue decode (Json.obj fields).withoutNulls =
    .ok (PropertyMap.ofJson fields)
  record : (Decoder.ofValue Properties.decode (.obj fields)).map Properties.map =
    .ok (PropertyMap.ofJson fields)
  object : (propertiesOf (.obj fields)).map Properties.map = .ok (PropertyMap.ofJson fields)

theorem readersAgree {fields : List (String × Json)}
    (ordered : (Json.obj fields).isOrdered = true) : ReadersAgree fields where
  strict := by
    cases free : (Json.obj fields).isNullFree with
    | true => exact decode_of_isNullFree ordered free .value
    | false => exact decode_of_null ordered free .value
  withoutNulls := by
    have orderedLess := Json.isOrdered_withoutNulls ordered
    have freeLess := Json.isNullFree_withoutNulls (v := Json.obj fields) Json.noConfusion
    have same : PropertyMap.ofJson (Json.fieldsWithoutNulls fields) = PropertyMap.ofJson fields :=
      congrArg SortedMap.ofList
        (PropertyValue.ofFields_withoutNulls fun _ _ => PropertyValue.ofJson?_withoutNulls _)
    exact (decode_of_isNullFree orderedLess freeLess .value).trans (congrArg Except.ok same)
  record := congrArg (Except.map Properties.map) (Properties.decode_obj ordered .value)
  object := rfl

end PropertyMap

/-- What is no object gives no properties, by whichever reader. -/
theorem PropertyMap.readers_fail {v : Json} (other : ∀ fields, v ≠ .obj fields) :
    ∃ e, Decoder.ofValue decode v = .error e ∧ Decoder.ofValue Properties.decode v = .error e ∧
      propertiesOf v = .error (.notAMap v.kind) := by
  refine ⟨.mismatch (Draft.ofValue v) "a map", ?_⟩
  cases v with
  | obj fields => exact absurd rfl (other fields)
  | null | bool b | int i | float x | str s | arr items => exact ⟨rfl, rfl, rfl⟩

/-- The two readers of properties agree on values without nulls, coercion makes of every other
value but null what the strict reader makes of it without its nulls, and for whole objects the
same holds of all readers. -/
theorem PropertyValue.readers_agree {v : Json} (ordered : v.isOrdered = true) :
    ((∃ p, Decoder.ofValue decode v = .ok p) ↔ v.isNullFree = true) ∧
    (∀ p, Decoder.ofValue decode v = .ok p → ofJson? v = some p) ∧
    (v ≠ .null → ∃ p, ofJson? v = some p ∧ Decoder.ofValue decode v.withoutNulls = .ok p) ∧
    (∀ fields, v = .obj fields → PropertyMap.ReadersAgree fields) ∧
    ((∀ fields, v ≠ .obj fields) → ∃ e, Decoder.ofValue PropertyMap.decode v = .error e ∧
      Decoder.ofValue Properties.decode v = .error e ∧
      propertiesOf v = .error (.notAMap v.kind)) := by
  have read : (∃ p, ofJson? v = some p ∧ Decoder.ofValue decode v = .ok p ∧
      v.isNullFree = true) ∨
      Decoder.ofValue decode v = .error .noProperty ∧ v.isNullFree = false := by
    cases free : v.isNullFree with
    | true =>
        obtain ⟨p, found, decoded⟩ := decode_of_isNullFree ordered free .value
        exact .inl ⟨p, found, decoded, rfl⟩
    | false => exact .inr ⟨decode_of_null ordered free .value, rfl⟩
  refine ⟨?_, ?_, ?_, ?_, PropertyMap.readers_fail⟩
  · rcases read with ⟨p, -, decoded, free⟩ | ⟨failed, null⟩
    · rw [decoded, free]
      exact ⟨fun _ => rfl, fun _ => ⟨p, rfl⟩⟩
    · rw [failed, null]
      simp
  · intro p decoded
    rcases read with ⟨q, found, same, -⟩ | ⟨failed, -⟩
    · cases same.symm.trans decoded
      exact found
    · cases failed.symm.trans decoded
  · intro present
    obtain ⟨p, found, decoded⟩ := decode_of_isNullFree (Json.isOrdered_withoutNulls ordered)
      (Json.isNullFree_withoutNulls present) .value
    exact ⟨p, (ofJson?_withoutNulls v).symm.trans found, decoded⟩
  · rintro fields rfl
    exact PropertyMap.readersAgree ordered

/-- An object with a null in a list and one in an object. -/
def Json.nested : Json :=
  .obj [("a", .arr [.str "x", .null]), ("b", .obj [("c", .null)])]

/-- The strict reader fails on the object with nulls, and the others drop them. -/
theorem PropertyValue.readers_agree_nested : Json.nested.isOrdered = true ∧
    (¬ ∃ p, Decoder.ofValue decode Json.nested = .ok p) ∧
    ofJson? Json.nested = some (map [("a", list [str "x"]), ("b", map [])]) ∧
    (propertiesOf Json.nested).map Properties.map =
      .ok [("a", list [str "x"]), ("b", map [])] := by
  have ordered : Json.nested.isOrdered = true := by decide
  obtain ⟨accepted, -, -, objects, -⟩ := readers_agree ordered
  have free : Json.nested.isNullFree ≠ true := by decide
  have read : PropertyMap.ofJson [("a", .arr [.str "x", .null]), ("b", .obj [("c", .null)])] =
      [("a", list [str "x"]), ("b", map [])] := by rfl
  refine ⟨ordered, mt accepted.mp free, ?_, ?_⟩
  · exact congrArg (fun m => some (map m)) read
  · exact (objects _ rfl).object.trans (congrArg Except.ok read)

end RecordGraph
