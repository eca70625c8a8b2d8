import RecordGraph.Proofs.Statement.Inert

/-!
# The parameters of a statement

A text has the names of its parameters after dollar signs. Every statement for records binds
exactly the names in its text: the urns to those that were given, the properties to those that
are written, and each field of a filter to the value that the record has there. The parameters
of fields have names of their own, so no field takes the place of an end or of another field.
-/

namespace RecordGraph

/-! ## Maps with given entries -/

namespace SortedMap

variable {κ : Type u} {ν : Type v} [Ord κ]

/-- A map that has the given entries and no other key. -/
structure Holds (m : SortedMap κ ν) (given : List (κ × ν)) : Prop where
  keys : ∀ k, k ∈ keys m ↔ k ∈ given.map Prod.fst
  values : ∀ entry ∈ given, get? m entry.1 = some entry.2

/-- What is given may be given in any order. -/
theorem Holds.perm {m : SortedMap κ ν} {given more : List (κ × ν)} (holds : Holds m given)
    (permuted : given.Perm more) : Holds m more where
  keys := by
    intro k
    rw [holds.keys, (permuted.map Prod.fst).mem_iff]
  values := fun entry member => holds.values entry (permuted.mem_iff.mpr member)

variable [Std.LawfulEqOrd κ] [DecidableEq κ]

theorem Holds.singleton (k : κ) (v : ν) : Holds [(k, v)] [(k, v)] where
  keys := fun _ => Iff.rfl
  values := by
    rw [List.forall_mem_singleton, get?_cons, if_pos rfl]

/-- Maps without a common key are merged into one with the entries of both. -/
theorem Holds.merge {base extra : SortedMap κ ν} {given more : List (κ × ν)}
    (left : Holds base given) (right : Holds extra more)
    (apart : ∀ k ∈ given.map Prod.fst, k ∉ more.map Prod.fst) :
    Holds (merge base extra) (given ++ more) where
  keys := by
    intro k
    rw [mem_keys_iff, get?_merge, Option.isSome_or, Bool.or_eq_true, ← mem_keys_iff,
      ← mem_keys_iff, left.keys, right.keys, List.map_append, List.mem_append, or_comm]
  values := by
    intro entry member
    rw [get?_merge]
    rcases List.mem_append.mp member with first | later
    · have absent : get? extra entry.1 = none := by
        rw [← Option.not_isSome_iff_eq_none, ← mem_keys_iff, right.keys]
        exact apart entry.1 (List.mem_map_of_mem first)
      rw [absent, left.values entry first]
      rfl
    · rw [right.values entry later]
      rfl

theorem Holds.insert {m : SortedMap κ ν} {given : List (κ × ν)} (holds : Holds m given) {k : κ}
    (new : k ∉ given.map Prod.fst) (v : ν) : Holds (insert m k v) (given ++ [(k, v)]) := by
  refine holds.merge (Holds.singleton k v) ?_
  intro j old here
  obtain rfl : j = k := List.mem_singleton.mp here
  exact new old

end SortedMap

/-! ## The names in a text -/

namespace Cypher

/-- The names after dollar signs, each of which is a longest run of identifier characters. -/
def placeholders : List Char → List String
  | [] => []
  | c :: rest =>
      if c = '$' then String.ofList (rest.takeWhile Identifier.isPart) :: placeholders rest
      else placeholders rest

theorem placeholders_append {cs : List Char} (free : '$' ∉ cs) (rest : List Char) :
    placeholders (cs ++ rest) = placeholders rest := by
  induction cs with
  | nil => rfl
  | cons c more ih =>
      obtain ⟨differs, free⟩ := List.ne_and_not_mem_of_not_mem_cons free
      rw [List.cons_append, placeholders, if_neg differs.symm, ih free]

theorem dollar_notMem_of_isValid {name : String} (valid : Identifier.isValid name = true) :
    '$' ∉ name.toList := by
  intro member
  have part := (parts_of_isValid valid).2 '$' member
  revert part
  decide

/-- A name ends where a mark follows it. -/
theorem placeholders_dollar {name : String} (valid : Identifier.isValid name = true)
    {rest : List Char} (apart : rest = [] ∨ opensApart rest = true) :
    placeholders ('$' :: (name.toList ++ rest)) = name :: placeholders rest := by
  have ends : rest.takeWhile Identifier.isPart = [] := by
    cases rest with
    | nil => rfl
    | cons c more =>
        have mark : Identifier.isPart c = false := by simpa [opensApart] using apart
        rw [List.takeWhile_cons, mark]
        rfl
  rw [placeholders, if_pos rfl, List.takeWhile_append_of_pos (parts_of_isValid valid).2, ends,
    List.append_nil, String.ofList_toList, placeholders_append (dollar_notMem_of_isValid valid)]

theorem dollar_notMem_phrases : ∀ phrase ∈ phrases, '$' ∉ phrase.toList := by
  decide

/-- The names after dollar signs are the parameters of the template, in their order. -/
theorem Template.placeholders_text {t : Template} (phrased : isPhrased t = true)
    (spaced : isSpaced t = true) (clean : isClean t = true) :
    placeholders (text t).toList = params t := by
  rw [toList_text]
  induction t with
  | nil => rfl
  | cons f rest ih =>
      rw [isPhrased, List.all_cons, Bool.and_eq_true] at phrased
      rw [isSpaced, Bool.and_eq_true] at spaced
      rw [isClean, List.all_cons, Bool.and_eq_true] at clean
      have later := ih phrased.2 spaced.2 clean.2
      have chars : chars (f :: rest) = f.chars ++ chars rest := List.flatMap_cons
      rw [chars]
      cases f with
      | fixed s =>
          have laid : s ∈ phrases := List.contains_iff_mem.mp phrased.1
          exact (placeholders_append (dollar_notMem_phrases s laid) _).trans later
      | name s => exact (placeholders_append (dollar_notMem_of_isValid clean.1) _).trans later
      | param s =>
          have dollar : (Fragment.param s).chars = '$' :: s.toList := by
            simp [Fragment.chars, Fragment.text, String.toList_append]
          have apart : Template.chars rest = [] ∨ opensApart (Template.chars rest) = true :=
            (opens_of_head spaced.1).imp (congrArg Template.chars) id
          rw [dollar, List.cons_append, placeholders_dollar clean.1 apart, later]
          rfl

end Cypher

namespace Statement

/-! ## Binding -/

/-- A statement that binds exactly the names in its text, and these to the given values. -/
structure Binds (s : Statement) (given : List (String × PropertyValue)) : Prop where
  places : ∀ name, name ∈ Cypher.placeholders s.text.toList ↔ name ∈ SortedMap.keys s.params
  params : SortedMap.Holds s.params given

theorem Proper.placeholders {s : Statement} (proper : s.Proper) :
    Cypher.placeholders s.text.toList = s.operation.template.params := by
  rw [proper.text, Operation.text]
  exact Cypher.Template.placeholders_text (Operation.isPhrased_template _)
    (Operation.isSpaced_template _) (Operation.isClean_template proper.names)

/-- A statement binds what its parameters hold if that is what its operation asks for. -/
theorem Proper.binds {s : Statement} {given : List (String × PropertyValue)} (proper : s.Proper)
    (asked : s.operation.template.params = given.map Prod.fst)
    (holds : SortedMap.Holds s.params given) : s.Binds given where
  places := by
    intro name
    rw [proper.placeholders, asked, holds.keys]
  params := holds

/-! ## What is given -/

/-- What is given for the two ends of a relationship. -/
def endsGiven (r : Relationship) : List (String × PropertyValue) :=
  [(Param.source, urnValue r.source), (Param.destination, urnValue r.destination)]

/-- What is given for the edge of a relationship. -/
def edgeGiven (r : Relationship) : List (String × PropertyValue) :=
  endsGiven r ++ [(Param.properties, .map (carried r.properties))]

/-- What is given for a relationship and the nodes at its ends, one statement for each. -/
def linkingGiven (r : Relationship) : List (List (String × PropertyValue)) :=
  [[(Param.urn, urnValue r.source)], [(Param.urn, urnValue r.destination)], edgeGiven r]

/-- What is given for clearing edges: of the ends of the first relationship those that the
policy asks for. -/
def clearingGiven (policy : RemovalPolicy) :
    List Relationship → List (List (String × PropertyValue))
  | [] => []
  | first :: _ =>
      if policy = .none then []
      else [(if policy.sharesSource then [(Param.source, urnValue first.source)] else [])
        ++ if policy.sharesDestination then [(Param.destination, urnValue first.destination)]
          else []]

/-- What is given for deleting the edges of a relationship: its ends, and between them the
fields to filter by that it has, each with its value. -/
def deletionGiven (r : Relationship) : List (String × PropertyValue) :=
  (Param.source, urnValue r.source) ::
    (filterParams (valuesOf (carried r.properties) (declaredFields r))
      ++ [(Param.destination, urnValue r.destination)])

/-- What is given for each statement of a request. -/
def Request.given : Request → List (List (String × PropertyValue))
  | upsertNode e =>
      [[(Param.urn, urnValue e.urn),
        (Param.properties, .map (SortedMap.erase (carried e.properties) Param.urn))]]
  | deleteNode u | mergeNode u | matchNodes u => [[(Param.urn, urnValue u)]]
  | upsertEdge r => [edgeGiven r]
  | deleteEdge r => [deletionGiven r]
  | removal policy rs => clearingGiven policy rs
  | addRelationships policy rs => clearingGiven policy rs ++ rs.flatMap linkingGiven
  | matchEdges r => [endsGiven r]
  | matchEdgesFromSource source _ => [[(Param.source, urnValue source)]]

/-! ## Statements -/

section Binding

variable {registry : Registry}

theorem holds_endParams (r : Relationship) : SortedMap.Holds (endParams r) (endsGiven r) := by
  have new : Param.destination ∉ [Param.source] := by decide
  exact (SortedMap.Holds.singleton Param.source _).insert new _

/-- The parameters of the fields hold what the relationship has there. -/
theorem holds_filterParams (m : PropertyMap) (fields : List String) :
    SortedMap.Holds (filterParams (valuesOf m fields)) (filterParams (valuesOf m fields)) where
  keys := fun _ => Iff.rfl
  values := by
    intro entry member
    obtain ⟨⟨field, v⟩, carries, rfl⟩ := List.mem_map.mp member
    obtain ⟨listed, found⟩ := mem_valuesOf.mp carries
    rw [get?_filterParams, get?_valuesOf, if_pos listed, found]

/-- No field takes the place of an end. -/
theorem notMem_filterParams {found : List (String × PropertyValue)} {name : String}
    (apart : ∀ field, Param.filter field ≠ name) : name ∉ (filterParams found).map Prod.fst := by
  rw [filterParams, List.map_map]
  intro member
  obtain ⟨pair, -, same⟩ := List.mem_map.mp member
  exact apart pair.1 same

theorem holds_deletion (r : Relationship) :
    SortedMap.Holds (SortedMap.merge (endParams r)
      (filterParams (valuesOf (carried r.properties) (declaredFields r)))) (deletionGiven r) := by
  refine ((holds_endParams r).merge (holds_filterParams _ _) ?_).perm ?_
  · change ∀ name ∈ [Param.source, Param.destination], _
    rw [List.forall_mem_cons, List.forall_mem_singleton]
    exact ⟨notMem_filterParams Param.filter_ne_source,
      notMem_filterParams Param.filter_ne_destination⟩
  · exact List.Perm.cons _ List.perm_append_comm

theorem binds_nodeParams {op : Operation} {name : String} {u : Urn}
    (proper : (ofOperation op (nodeParams name u)).Proper) (asked : op.template.params = [name]) :
    (ofOperation op (nodeParams name u)).Binds [(name, urnValue u)] :=
  proper.binds asked (SortedMap.Holds.singleton _ _)

theorem binds_upsertNode {e : Entity} {s : Statement} (built : upsertNode registry e = .ok s) :
    s.Binds [(Param.urn, urnValue e.urn),
      (Param.properties, .map (SortedMap.erase (carried e.properties) Param.urn))] := by
  have proper := (Built.upsertNode built).proper
  obtain ⟨properties, found, done⟩ := bind_eq_ok_iff.mp built
  obtain rfl := eq_carried found
  cases done
  have new : Param.properties ∉ [Param.urn] := by decide
  have urn := SortedMap.Holds.singleton Param.urn (urnValue e.urn)
  exact proper.binds rfl (urn.insert new _)

theorem binds_upsertEdge {r : Relationship} {s : Statement}
    (built : upsertEdge registry r = .ok s) : s.Binds (edgeGiven r) := by
  have proper := proper_upsertEdge built
  obtain ⟨label, -, more⟩ := bind_eq_ok_iff.mp built
  obtain ⟨properties, found, done⟩ := bind_eq_ok_iff.mp more
  obtain rfl := eq_carried found
  cases done
  have new : Param.properties ∉ [Param.source, Param.destination] := by decide
  exact proper.binds rfl ((holds_endParams r).insert new _)

theorem binds_deleteEdge {r : Relationship} {s : Statement}
    (built : deleteEdge registry r = .ok s) : s.Binds (deletionGiven r) := by
  have proper := proper_deleteEdge built
  obtain ⟨-, -, rfl⟩ := deleteEdge_cases built
  refine proper.binds ?_ (holds_deletion r)
  change (Operation.deleteEdge _ _ _ _).template.params = _
  rw [Operation.params_deleteEdge, deletionGiven, List.map_cons, List.map_append, filterParams,
    List.map_map, List.map_map]
  rfl

theorem binds_matchEdges {r : Relationship} {s : Statement}
    (built : matchEdges registry r = .ok s) : s.Binds (endsGiven r) := by
  have proper := (Built.matchEdges built).proper
  obtain ⟨label, -, done⟩ := bind_eq_ok_iff.mp built
  cases done
  exact proper.binds rfl (holds_endParams r)

theorem binds_matchEdgesFromSource {source : Urn} {label : String} {s : Statement}
    (built : matchEdgesFromSource registry source label = .ok s) :
    s.Binds [(Param.source, urnValue source)] := by
  have proper := (Built.matchEdgesFromSource built).proper
  obtain ⟨label, -, done⟩ := bind_eq_ok_iff.mp built
  cases done
  exact binds_nodeParams proper rfl

/-- A removal binds the ends that the policy asks for. -/
theorem binds_removal {policy : RemovalPolicy} {rs : List Relationship}
    {cleared : Option Statement} (built : removal registry policy rs = .ok cleared) :
    List.Forall₂ Binds cleared.toList (clearingGiven policy rs) := by
  cases rs with
  | nil => cases policy <;> cases built <;> exact .nil
  | cons first rest =>
      by_cases clears : policy = .none
      · subst clears
        cases built
        exact .nil
      · obtain ⟨-, -, -, rfl⟩ := removal_cases clears built
        have proper := proper_removal built
        rw [clearingGiven, if_neg clears]
        refine .cons ?_ .nil
        cases policy with
        | none => exact absurd rfl clears
        | allFromSource => exact binds_nodeParams proper rfl
        | allToDestination => exact binds_nodeParams proper rfl
        | allFromSourceToDestination =>
            have apart : ∀ name ∈ [Param.source], name ∉ [Param.destination] := by decide
            have source := SortedMap.Holds.singleton Param.source (urnValue first.source)
            exact proper.binds rfl (source.merge (SortedMap.Holds.singleton _ _) apart)

theorem binds_upsertEdges {rs : List Relationship} {ss : List Statement}
    (built : upsertEdges registry rs = .ok ss) :
    List.Forall₂ Binds ss (rs.flatMap linkingGiven) := by
  refine (recordByRecord_upsertEdges registry).induct
    (P := fun rs ss => List.Forall₂ Binds ss (rs.flatMap linkingGiven)) .nil ?_ built
  intro r rest edge others builtEdge later
  have node (u : Urn) : (mergeNode registry u).Binds [(Param.urn, urnValue u)] :=
    binds_nodeParams (proper_mergeNode registry u) rfl
  exact .cons (node r.source) (.cons (node r.destination)
    (.cons (binds_upsertEdge builtEdge) later))

theorem binds_addRelationships {policy : RemovalPolicy} {rs : List Relationship}
    {ss : List Statement} (built : addRelationships registry policy rs = .ok ss) :
    List.Forall₂ Binds ss (clearingGiven policy rs ++ rs.flatMap linkingGiven) := by
  obtain ⟨cleared, builtCleared, more⟩ := bind_eq_ok_iff.mp built
  obtain ⟨written, builtWritten, done⟩ := bind_eq_ok_iff.mp more
  cases done
  exact List.rel_append (binds_removal builtCleared) (binds_upsertEdges builtWritten)

end Binding

namespace Request

variable {registry : Registry}

theorem binds_build {q : Request} {ss : List Statement} (built : q.build registry = .ok ss) :
    List.Forall₂ Binds ss q.given := by
  -- most requests have one statement
  have one {s : Statement} {given : List (String × PropertyValue)} (binds : s.Binds given) :
      List.Forall₂ Binds [s] [given] := .cons binds .nil
  cases q with
  | upsertNode e =>
      obtain ⟨s, node, rfl⟩ := map_eq_ok_iff.mp built
      exact one (binds_upsertNode node)
  | deleteNode u =>
      cases built
      exact one (binds_nodeParams (Built.deleteNode registry u).proper rfl)
  | mergeNode u =>
      cases built
      exact one (binds_nodeParams (Built.mergeNode registry u).proper rfl)
  | upsertEdge r =>
      obtain ⟨s, edge, rfl⟩ := map_eq_ok_iff.mp built
      exact one (binds_upsertEdge edge)
  | deleteEdge r =>
      obtain ⟨s, edge, rfl⟩ := map_eq_ok_iff.mp built
      exact one (binds_deleteEdge edge)
  | removal policy rs =>
      obtain ⟨cleared, removes, rfl⟩ := map_eq_ok_iff.mp built
      exact binds_removal removes
  | addRelationships policy rs => exact binds_addRelationships built
  | matchNodes u =>
      cases built
      exact one (binds_nodeParams (Built.matchNodes registry u).proper rfl)
  | matchEdges r =>
      obtain ⟨s, edges, rfl⟩ := map_eq_ok_iff.mp built
      exact one (binds_matchEdges edges)
  | matchEdgesFromSource source label =>
      obtain ⟨s, edges, rfl⟩ := map_eq_ok_iff.mp built
      exact one (binds_matchEdgesFromSource edges)

/-- Edges are deleted by a filter only for a request to delete those of a relationship. -/
theorem deletes_of_mem {q : Request} {source destination relationship : String}
    {filter : List String}
    (member : .deleteEdge source destination relationship filter ∈ q.operations registry) :
    ∃ r, q = .deleteEdge r ∧ filter = filteredBy r := by
  have unclearing (policy : RemovalPolicy) (rs : List Relationship) :
      .deleteEdge source destination relationship filter ∉ clearing registry policy rs := by
    cases rs with
    | nil => exact List.not_mem_nil
    | cons first rest =>
        rw [clearing]
        split <;> simp
  cases q with
  | deleteEdge r =>
      rw [operations, List.mem_singleton, Operation.deleteEdge.injEq] at member
      exact ⟨r, rfl, member.2.2.2⟩
  | removal policy rs => exact absurd member (unclearing policy rs)
  | addRelationships policy rs =>
      rcases List.mem_append.mp member with cleared | written
      · exact absurd cleared (unclearing policy rs)
      · simp [linking, upsertion] at written
  | _ => simp [operations, upsertion] at member

/-- Every statement that is built binds the names in its text and no others. Each is bound to
what is given for it: `urn` and the names of the two ends to the texts of the urns, those of the
first relationship for a removal, and the parameter of each field that edges are filtered by to
the value that the relationship has there. -/
theorem parameters_bound (registry : Registry) (q : Request) (ss : List Statement)
    (built : q.build registry = .ok ss) :
    List.Forall₂ Binds ss q.given ∧
    ∀ s ∈ ss, ∀ source destination relationship filter,
      s.operation = .deleteEdge source destination relationship filter →
      ∃ r, q = .deleteEdge r ∧ ∀ field ∈ filter, ∃ v,
        SortedMap.get? (carried r.properties) field = some v ∧
          SortedMap.get? s.params (Param.filter field) = some v := by
  have binds := binds_build built
  refine ⟨binds, ?_⟩
  intro s member source destination relationship filter deletes
  have asked : .deleteEdge source destination relationship filter ∈ q.operations registry := by
    rw [← deletes, ← (build_cases built).2]
    exact List.mem_map_of_mem member
  obtain ⟨r, rfl, rfl⟩ := deletes_of_mem asked
  obtain ⟨t, edge, rfl⟩ := map_eq_ok_iff.mp built
  obtain rfl := List.mem_singleton.mp member
  refine ⟨r, rfl, ?_⟩
  intro field inside
  obtain ⟨⟨field, v⟩, carries, rfl⟩ := List.mem_map.mp inside
  have bound : (Param.filter field, v) ∈
      filterParams (valuesOf (carried r.properties) (declaredFields r)) :=
    List.mem_map_of_mem carries
  have given : (Param.filter field, v) ∈ deletionGiven r :=
    List.mem_cons_of_mem _ (List.mem_append_left _ bound)
  exact ⟨v, (mem_valuesOf.mp carries).2, (binds_deleteEdge edge).params.values _ given⟩

/-- A relationship with fields that are named like its ends. -/
def namesake : Relationship :=
  ⟨"KNOWS", .ann, .bob,
    .ok ⟨[("destination_urn", .bool true), ("filter_urn", .int 1), ("urn", .int 2)], rfl⟩,
    ["urn", "filter_urn", "source_urn", "destination_urn", "urn"]⟩

/-- Fields that are named like the ends leave the ends bound to their urns. -/
theorem parameters_bound_hostile :
    ∃ s, (deleteEdge namesake).build Registry.empty = .ok [s] ∧ s.Binds (deletionGiven namesake) ∧
      SortedMap.get? s.params "destination_urn" = some (.str "urn:a:person:bob") ∧
      SortedMap.get? s.params "filter_destination_urn" = some (.bool true) := by
  obtain ⟨s, edge⟩ : ∃ s, Statement.deleteEdge Registry.empty namesake = .ok s := ⟨_, rfl⟩
  have built : (deleteEdge namesake).build Registry.empty = .ok [s] := by
    rw [build, edge]
    rfl
  obtain ⟨binds, fields⟩ := parameters_bound Registry.empty _ _ built
  obtain ⟨binds, -⟩ := List.forall₂_cons.mp binds
  have last : (Param.destination, urnValue .bob) ∈ deletionGiven namesake :=
    List.mem_cons_of_mem _ (List.mem_append_right _ List.mem_cons_self)
  have carries : SortedMap.get? (carried namesake.properties) "destination_urn" =
      some (.bool true) := rfl
  have filtered : "destination_urn" ∈ filteredBy namesake :=
    mem_filteredBy.mpr ⟨by decide, Option.isSome_of_eq_some carries⟩
  have operation := List.singleton_inj.mp (build_cases built).2
  obtain ⟨_, same, each⟩ := fields s List.mem_cons_self _ _ _ _ operation
  cases same
  obtain ⟨v, found, bound⟩ := each "destination_urn" filtered
  cases carries.symm.trans found
  exact ⟨s, built, binds, binds.params.values _ last, bound⟩

end Request

end Statement

end RecordGraph
