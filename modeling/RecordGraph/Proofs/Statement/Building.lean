import RecordGraph.Graph
import RecordGraph.Proofs.Success
import RecordGraph.SortedMap.Lemmas
import RecordGraph.Statement.Records

/-!
# Building statements for records

What the builders check, what they put into a statement, and that the parameters are found
again. No name of a filter parameter is that of another parameter.
-/

namespace RecordGraph

namespace Param

theorem source_ne_destination : source ≠ destination := by decide

theorem filter_injective {f f' : String} (same : filter f = filter f') : f = f' :=
  (String.append_right_inj _).mp same

theorem filter_ne_source (f : String) : filter f ≠ source := by
  intro same
  have heads := congrArg (fun t => t.toList.head?) same
  simp [filter, source, String.toList_append] at heads

theorem filter_ne_destination (f : String) : filter f ≠ destination := by
  intro same
  have heads := congrArg (fun t => t.toList.head?) same
  simp [filter, destination, String.toList_append] at heads

end Param

namespace Statement

/-! ## Properties and labels -/

/-- The properties of a record, none if they cannot be computed. -/
def carried (properties : Except PropertyError Properties) : PropertyMap :=
  match properties with
  | .ok p => p.map
  | .error _ => []

theorem sorted_carried (properties : Except PropertyError Properties) :
    SortedMap.Sorted (carried properties) := by
  cases properties with
  | ok p => exact p.sorted
  | error e => exact List.Pairwise.nil

theorem eq_carried {properties : Except PropertyError Properties} {m : PropertyMap}
    (found : propertiesOf properties = .ok m) : m = carried properties := by
  obtain ⟨p, rfl, same⟩ := map_eq_ok_iff.mp (mapError_eq_ok_iff.mp found)
  exact same.symm

theorem eq_of_checkedLabel {label checked : String} (done : checkedLabel label = .ok checked) :
    Identifier.isValid label = true ∧ checked = label := by
  unfold checkedLabel at done
  split at done
  · rename_i valid
    cases done
    exact ⟨valid, rfl⟩
  · cases done

/-- The declared fields are those that a relationship lists. -/
theorem mem_declaredFields {r : Relationship} {field : String} :
    field ∈ declaredFields r ↔ field ∈ r.filterFields := by
  unfold declaredFields SortedMap.ofList
  rw [SortedMap.mem_keys_iff, SortedMap.get?_foldl_insert_isSome]
  simp [SortedMap.get?]

theorem increasing_declaredFields (r : Relationship) :
    (declaredFields r).Pairwise fun a b => compare a b = .lt :=
  List.pairwise_map.mpr (SortedMap.Sorted.ofList _)

/-- The declared fields do not depend on the order and the repetition of those listed. -/
theorem declaredFields_congr {r r' : Relationship}
    (same : ∀ field, field ∈ r.filterFields ↔ field ∈ r'.filterFields) :
    declaredFields r = declaredFields r' := by
  refine SortedMap.eq_of_increasing (increasing_declaredFields r) (increasing_declaredFields r') ?_
  intro field
  rw [mem_declaredFields, mem_declaredFields, same]

/-- The fields that a map has, with their values. -/
def valuesOf (m : PropertyMap) (fields : List String) : List (String × PropertyValue) :=
  fields.filterMap fun field => (SortedMap.get? m field).map (field, ·)

theorem mem_valuesOf {m : PropertyMap} {fields : List String} {field : String}
    {v : PropertyValue} :
    (field, v) ∈ valuesOf m fields ↔ field ∈ fields ∧ SortedMap.get? m field = some v := by
  simp only [valuesOf, List.mem_filterMap, Option.map_eq_some_iff, Prod.mk.injEq]
  constructor
  · rintro ⟨_, member, _, found, rfl, rfl⟩
    exact ⟨member, found⟩
  · rintro ⟨member, found⟩
    exact ⟨field, member, v, found, rfl, rfl⟩

theorem get?_valuesOf (m : PropertyMap) (fields : List String) (field : String) :
    SortedMap.get? (valuesOf m fields) field =
      if field ∈ fields then SortedMap.get? m field else none := by
  induction fields with
  | nil => rfl
  | cons first rest ih =>
      have step : SortedMap.get? (valuesOf m (first :: rest)) field =
          if field = first then
            (SortedMap.get? m first).or (SortedMap.get? (valuesOf m rest) field)
          else SortedMap.get? (valuesOf m rest) field := by
        cases here : SortedMap.get? m first with
        | none => simp [valuesOf, here]
        | some v =>
            have kept : valuesOf m (first :: rest) = (first, v) :: valuesOf m rest := by
              simp [valuesOf, here]
            rw [kept, SortedMap.get?_cons, Option.some_or]
      rw [step, ih]
      by_cases same : field = first
      · subst same
        cases SortedMap.get? m field <;> simp
      · simp [same]

theorem eq_valuesOf {label : String} {m : PropertyMap} {fields : List String}
    {found : List (String × PropertyValue)} (done : filterValues label m fields = .ok found) :
    (∀ field ∈ fields, Identifier.isValid field = true) ∧ found = valuesOf m fields := by
  induction fields generalizing found with
  | nil =>
      cases done
      exact ⟨by simp, rfl⟩
  | cons field rest ih =>
      unfold filterValues at done
      split at done
      · rename_i valid
        obtain ⟨others, doneOthers, done⟩ := bind_eq_ok_iff.mp done
        obtain ⟨validOthers, rfl⟩ := ih doneOthers
        refine ⟨?_, ?_⟩
        · intro other member
          rcases List.mem_cons.mp member with rfl | later
          · exact valid
          · exact validOthers other later
        · cases here : SortedMap.get? m field with
          | none =>
              rw [here] at done
              cases done
              simp [valuesOf, here]
          | some v =>
              rw [here] at done
              cases done
              simp [valuesOf, here]
      · cases done

theorem map_fst_valuesOf (m : PropertyMap) (fields : List String) :
    (valuesOf m fields).map Prod.fst =
      fields.filter fun field => (SortedMap.get? m field).isSome := by
  induction fields with
  | nil => rfl
  | cons field rest ih =>
      cases here : SortedMap.get? m field with
      | none => simpa [valuesOf, here] using ih
      | some v => simpa [valuesOf, here] using ih

/-- The fields by which a deletion is filtered: the declared ones that the relationship has. -/
def filteredBy (r : Relationship) : List String :=
  (valuesOf (carried r.properties) (declaredFields r)).map Prod.fst

theorem mem_filteredBy {r : Relationship} {field : String} :
    field ∈ filteredBy r ↔
      field ∈ r.filterFields ∧ (SortedMap.get? (carried r.properties) field).isSome = true := by
  rw [filteredBy, map_fst_valuesOf, List.mem_filter, mem_declaredFields]

theorem increasing_filteredBy (r : Relationship) :
    (filteredBy r).Pairwise fun a b => compare a b = .lt := by
  rw [filteredBy, map_fst_valuesOf]
  exact (increasing_declaredFields r).filter _

/-! ## Parameters -/

theorem get?_nodeParams (name : String) (u : Urn) (other : String) :
    SortedMap.get? (nodeParams name u) other =
      if other = name then some (urnValue u) else none :=
  SortedMap.get?_cons _ _ _ _

theorem nodeParam_of_get? {s : Statement} {name : String} {u : Urn}
    (found : SortedMap.get? s.params name = some (urnValue u)) (label : String) :
    s.nodeParam label name = .ok ⟨label, u.text⟩ := by
  unfold nodeParam textParam param
  rw [found]
  rfl

theorem get?_endParams_source (r : Relationship) :
    SortedMap.get? (endParams r) Param.source = some (urnValue r.source) := by
  unfold endParams
  rw [SortedMap.get?_insert, if_neg Param.source_ne_destination, get?_nodeParams, if_pos rfl]

theorem get?_endParams_destination (r : Relationship) :
    SortedMap.get? (endParams r) Param.destination = some (urnValue r.destination) := by
  unfold endParams
  rw [SortedMap.get?_insert, if_pos rfl]

/-- The parameters of a filter. -/
def filterParams (found : List (String × PropertyValue)) : PropertyMap :=
  found.map fun (field, v) => (Param.filter field, v)

theorem get?_filterParams (found : List (String × PropertyValue)) (field : String) :
    SortedMap.get? (filterParams found) (Param.filter field) = SortedMap.get? found field := by
  induction found with
  | nil => rfl
  | cons pair rest ih =>
      obtain ⟨first, v⟩ := pair
      change SortedMap.get? ((Param.filter first, v) :: filterParams rest) _ = _
      rw [SortedMap.get?_cons, SortedMap.get?_cons, ih]
      by_cases same : field = first
      · rw [if_pos same, if_pos (congrArg Param.filter same)]
      · rw [if_neg same, if_neg fun impossible => same (Param.filter_injective impossible)]

theorem get?_filterParams_of_ne (found : List (String × PropertyValue)) {name : String}
    (apart : ∀ field, Param.filter field ≠ name) :
    SortedMap.get? (filterParams found) name = none := by
  induction found with
  | nil => rfl
  | cons pair rest ih =>
      change SortedMap.get? ((Param.filter pair.1, pair.2) :: filterParams rest) _ = _
      rw [SortedMap.get?_cons, if_neg (apart pair.1).symm, ih]

/-- A filter whose parameters are bound is a list of criteria. -/
theorem criteria_of_get? {s : Statement} {found : List (String × PropertyValue)}
    (bound : ∀ pair ∈ found, SortedMap.get? s.params (Param.filter pair.1) = some pair.2) :
    s.criteria (found.map Prod.fst) = .ok found := by
  induction found with
  | nil => rfl
  | cons pair rest ih =>
      rw [List.map_cons, criteria, param, bound pair List.mem_cons_self,
        ih fun other later => bound other (List.mem_cons_of_mem _ later)]
      rfl

/-! ## Statements -/

theorem urn_of_checkShared {field : EdgeEnd} {expected : Urn} {rs : List Relationship}
    (checked : checkShared field expected rs = .ok ()) :
    ∀ r ∈ rs, field.urn r = expected := by
  unfold checkShared at checked
  split at checked
  · cases checked
  · rename_i same
    intro r member
    simpa using List.find?_eq_none.mp same r member

/-- What a removal consists of, and what it says of the relationships. -/
theorem removal_cases {registry : Registry} {policy : RemovalPolicy} {first : Relationship}
    {rest : List Relationship} {cleared : Option Statement} (clears : policy ≠ .none)
    (built : removal registry policy (first :: rest) = .ok cleared) :
    Identifier.isValid first.label = true ∧
      (policy.sharesSource = true → ∀ r ∈ first :: rest, r.source = first.source) ∧
      (policy.sharesDestination = true →
        ∀ r ∈ first :: rest, r.destination = first.destination) ∧
      cleared = some (ofOperation
        (.removeEdges policy
          (if policy.sharesSource then some (registry.labelFor first.source) else none)
          (if policy.sharesDestination then some (registry.labelFor first.destination) else none)
          first.label)
        (SortedMap.merge
          (if policy.sharesSource then nodeParams Param.source first.source else [])
          (if policy.sharesDestination then
            nodeParams Param.destination first.destination else []))) := by
  unfold removal at built
  cases policy with
  | none => exact absurd rfl clears
  | allFromSource =>
      obtain ⟨label, checked, more⟩ := bind_eq_ok_iff.mp built
      obtain ⟨valid, rfl⟩ := eq_of_checkedLabel checked
      obtain ⟨⟨⟩, shared, done⟩ := bind_eq_ok_iff.mp more
      cases done
      refine ⟨valid, fun _ => urn_of_checkShared shared, ?_, rfl⟩
      intro impossible
      cases impossible
  | allToDestination =>
      obtain ⟨label, checked, more⟩ := bind_eq_ok_iff.mp built
      obtain ⟨valid, rfl⟩ := eq_of_checkedLabel checked
      obtain ⟨⟨⟩, shared, done⟩ := bind_eq_ok_iff.mp more
      cases done
      refine ⟨valid, ?_, fun _ => urn_of_checkShared shared, rfl⟩
      intro impossible
      cases impossible
  | allFromSourceToDestination =>
      obtain ⟨label, checked, more⟩ := bind_eq_ok_iff.mp built
      obtain ⟨valid, rfl⟩ := eq_of_checkedLabel checked
      obtain ⟨⟨⟩, sources, more⟩ := bind_eq_ok_iff.mp more
      obtain ⟨⟨⟩, destinations, done⟩ := bind_eq_ok_iff.mp more
      cases done
      exact ⟨valid, fun _ => urn_of_checkShared sources,
        fun _ => urn_of_checkShared destinations, rfl⟩

/-- What the statement that removes the edges of a relationship consists of. -/
theorem deleteEdge_cases {registry : Registry} {r : Relationship} {s : Statement}
    (built : deleteEdge registry r = .ok s) :
    Identifier.isValid r.label = true ∧
      (∀ field ∈ declaredFields r, Identifier.isValid field = true) ∧
      s = ofOperation
        (.deleteEdge (registry.labelFor r.source) (registry.labelFor r.destination) r.label
          ((valuesOf (carried r.properties) (declaredFields r)).map Prod.fst))
        (SortedMap.merge (endParams r)
          (filterParams (valuesOf (carried r.properties) (declaredFields r)))) := by
  obtain ⟨label, checked, more⟩ := bind_eq_ok_iff.mp built
  obtain ⟨valid, rfl⟩ := eq_of_checkedLabel checked
  obtain ⟨properties, carries, more⟩ := bind_eq_ok_iff.mp more
  obtain rfl := eq_carried carries
  obtain ⟨found, values, done⟩ := bind_eq_ok_iff.mp more
  obtain ⟨validFields, rfl⟩ := eq_valuesOf values
  cases done
  exact ⟨valid, validFields, rfl⟩

/-! ## Batches -/

/-- A way to build a batch record by record: the statement of each record is placed before
those of the later ones. -/
structure RecordByRecord (build : α → Except GraphError Statement)
    (place : α → Statement → List Statement → List Statement)
    (buildAll : List α → Except GraphError (List Statement)) : Prop where
  nil : buildAll [] = .ok []
  cons : ∀ r rest, buildAll (r :: rest) = (do
    let s ← build r
    let others ← buildAll rest
    return place r s others)

namespace RecordByRecord

variable {build : α → Except GraphError Statement}
  {place : α → Statement → List Statement → List Statement}
  {buildAll : List α → Except GraphError (List Statement)}

/-- Whatever the placing of each record's statement keeps holds of every batch. -/
theorem induct (batch : RecordByRecord build place buildAll)
    {P : List α → List Statement → Prop} (nil : P [] [])
    (cons : ∀ r rest s others, build r = .ok s → P rest others → P (r :: rest) (place r s others))
    {records : List α} {ss : List Statement} (built : buildAll records = .ok ss) :
    P records ss := by
  induction records generalizing ss with
  | nil =>
      rw [batch.nil] at built
      cases built
      exact nil
  | cons r rest ih =>
      rw [batch.cons] at built
      obtain ⟨s, builtFirst, more⟩ := bind_eq_ok_iff.mp built
      obtain ⟨others, builtOthers, done⟩ := bind_eq_ok_iff.mp more
      cases done
      exact cons r rest s others builtFirst (ih builtOthers)

/-- A batch is built only if a statement is built for each record. -/
theorem forall_of_built (batch : RecordByRecord build place buildAll) {records : List α}
    {ss : List Statement} (built : buildAll records = .ok ss) :
    ∀ r ∈ records, ∃ s, build r = .ok s := by
  refine batch.induct (P := fun records _ => ∀ r ∈ records, ∃ s, build r = .ok s)
    (List.forall_mem_nil _) ?_ built
  intro r rest s others builtFirst each
  exact List.forall_mem_cons.mpr ⟨⟨s, builtFirst⟩, each⟩

/-- A batch is built if a statement is built for each record. -/
theorem exists_of_forall (batch : RecordByRecord build place buildAll) {records : List α}
    (each : ∀ r ∈ records, ∃ s, build r = .ok s) : ∃ ss, buildAll records = .ok ss := by
  induction records with
  | nil => exact ⟨[], batch.nil⟩
  | cons r rest ih =>
      obtain ⟨s, built⟩ := each r List.mem_cons_self
      obtain ⟨others, builtOthers⟩ := ih fun other later =>
        each other (List.mem_cons_of_mem _ later)
      rw [batch.cons, built, builtOthers]
      exact ⟨_, rfl⟩

/-- A batch is empty only if there are no records. -/
theorem length_eq_zero_iff (batch : RecordByRecord build place buildAll)
    (placed : ∀ r s others, place r s others ≠ []) {records : List α} {ss : List Statement}
    (built : buildAll records = .ok ss) : records.length = 0 ↔ ss = [] := by
  refine batch.induct (P := fun records ss => records.length = 0 ↔ ss = []) (by simp) ?_ built
  intro r rest s others builtFirst same
  simp [placed r s others]

end RecordByRecord

variable (registry : Registry)

theorem recordByRecord_upsertNodes :
    RecordByRecord (upsertNode registry) (fun _ node others => node :: others)
      (upsertNodes registry) where
  nil := rfl
  cons := fun _ _ => rfl

theorem recordByRecord_upsertEdges :
    RecordByRecord (upsertEdge registry)
      (fun r edge others =>
        mergeNode registry r.source :: mergeNode registry r.destination :: edge :: others)
      (upsertEdges registry) where
  nil := rfl
  cons := fun _ _ => rfl

theorem recordByRecord_deleteEdges :
    RecordByRecord (deleteEdge registry) (fun _ edge others => edge :: others)
      (deleteEdges registry) where
  nil := rfl
  cons := fun _ _ => rfl

end Statement

end RecordGraph
