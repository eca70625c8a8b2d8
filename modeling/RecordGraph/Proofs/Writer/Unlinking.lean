import RecordGraph.Proofs.Property.Distinct
import RecordGraph.Proofs.Property.Equality
import RecordGraph.Proofs.Writer.Acceptance
import RecordGraph.Proofs.Writer.Replacement

/-!
# Removing relationships

A relationship describes the edges with its ends and its label that agree with it in the filter
fields it carries, and relationships that are removed take the edges away that one of them
describes. An edge agrees with the record that was written to it last, so a batch that is
removed after it was added leaves none of its edges.
-/

namespace RecordGraph

/-- Whether an edge has the ends and the label of a relationship and, in the filter fields that
the relationship carries, values equal to its own. -/
structure Relationship.Describes (registry : Registry) (r : Relationship) (e : Edge) :
    Prop where
  source : e.source = registry.node r.source
  destination : e.destination = registry.node r.destination
  label : e.relationship = r.label
  fields : ∀ field ∈ r.filterFields, ∀ wanted,
    SortedMap.get? (Statement.carried r.properties) field = some wanted →
      ∃ v, SortedMap.get? e.properties field = some v ∧ v.equal wanted = true

/-- Whether a relationship is another with its filter fields listed in some way. -/
structure Relationship.Restates (r r' : Relationship) : Prop where
  label : r.label = r'.label
  source : r.source = r'.source
  destination : r.destination = r'.destination
  properties : r.properties = r'.properties
  fields : ∀ field, field ∈ r.filterFields ↔ field ∈ r'.filterFields

/-- Whether records are others listed in some way. -/
structure Relationship.RestateAll (rs rs' : List Relationship) : Prop where
  forward : ∀ r ∈ rs, ∃ r' ∈ rs', r.Restates r'
  backward : ∀ r' ∈ rs', ∃ r ∈ rs, r.Restates r'

namespace Relationship

variable {registry : Registry} {r r' : Relationship} {rs rs' : List Relationship} {e : Edge}

/-! ## Describing edges -/

theorem key_eq_iff : e.key = (registry.edge r).key ↔
    e.source = registry.node r.source ∧ e.destination = registry.node r.destination ∧
      e.relationship = r.label := by
  rw [Edge.key, Edge.key, EdgeKey.mk.injEq]
  rfl

theorem Describes.key (describes : r.Describes registry e) : e.key = (registry.edge r).key :=
  key_eq_iff.mpr ⟨describes.source, describes.destination, describes.label⟩

/-- The edges that a relationship removes are those that it describes. -/
theorem covers_selection_iff :
    (registry.selection r).covers e = true ↔ r.Describes registry e := by
  unfold Graph.Selection.covers
  rw [Bool.and_eq_true, decide_eq_true_eq]
  have agrees := @Edge.satisfies_valuesOf_iff e (Statement.carried r.properties)
    (Statement.declaredFields r)
  simp only [Statement.mem_declaredFields] at agrees
  constructor
  · rintro ⟨sameKey, satisfied⟩
    obtain ⟨source, destination, label⟩ := key_eq_iff.mp sameKey
    exact ⟨source, destination, label, agrees.mp satisfied⟩
  · intro describes
    exact ⟨describes.key, agrees.mpr describes.fields⟩

instance (e : Edge) : Decidable (r.Describes registry e) :=
  decidable_of_iff _ covers_selection_iff

/-! ## Records in another way -/

theorem Restates.symm (restates : r.Restates r') : r'.Restates r where
  label := restates.label.symm
  source := restates.source.symm
  destination := restates.destination.symm
  properties := restates.properties.symm
  fields field := (restates.fields field).symm

theorem Restates.describes (restates : r.Restates r') (describes : r.Describes registry e) :
    r'.Describes registry e where
  source := restates.source ▸ describes.source
  destination := restates.destination ▸ describes.destination
  label := restates.label ▸ describes.label
  fields field declared :=
    restates.properties ▸ describes.fields field ((restates.fields field).mpr declared)

/-- The statement that removes the edges of a relationship is built from the set of its filter
fields. -/
theorem Restates.deleteEdge_eq (restates : r.Restates r') :
    Statement.deleteEdge registry r = Statement.deleteEdge registry r' := by
  unfold Statement.deleteEdge Statement.endParams
  rw [Statement.declaredFields_congr restates.fields, restates.label, restates.source,
    restates.destination, restates.properties]

theorem Restates.writable (restates : r.Restates r') (writable : r.Writable) : r'.Writable where
  label := restates.label ▸ writable.label
  fields field declared := writable.fields field ((restates.fields field).mpr declared)
  properties := restates.properties ▸ writable.properties
  flat := restates.properties ▸ writable.flat

theorem RestateAll.symm (restated : RestateAll rs rs') : RestateAll rs' rs where
  forward r' member := by
    obtain ⟨r, here, restates⟩ := restated.backward r' member
    exact ⟨r, here, restates.symm⟩
  backward r member := by
    obtain ⟨r', here, restates⟩ := restated.forward r member
    exact ⟨r', here, restates.symm⟩

theorem RestateAll.apart (restated : RestateAll rs rs')
    (apart : ∀ r ∈ rs, ¬ r.Describes registry e) : ∀ r' ∈ rs', ¬ r'.Describes registry e := by
  intro r' member describes
  obtain ⟨r, here, restates⟩ := restated.backward r' member
  exact apart r here (restates.symm.describes describes)

theorem RestateAll.apart_iff (restated : RestateAll rs rs') :
    (∀ r ∈ rs, ¬ r.Describes registry e) ↔ ∀ r ∈ rs', ¬ r.Describes registry e :=
  ⟨restated.apart, restated.symm.apart⟩

theorem RestateAll.eq_nil (restated : RestateAll [] rs') : rs' = [] := by
  refine List.eq_nil_iff_forall_not_mem.mpr fun r' member => ?_
  obtain ⟨r, impossible, -⟩ := restated.backward r' member
  cases impossible

/-- The structural validator takes no notice of how filter fields and records are listed. -/
theorem RestateAll.accepted (restated : RestateAll rs rs')
    (accepted : ∀ r ∈ rs, Validator.structural.relationship r = .ok ()) :
    ∀ r ∈ rs', Validator.structural.relationship r = .ok () := by
  intro r' member
  obtain ⟨r, here, restates⟩ := restated.backward r' member
  have writable := Validator.structuralRelationship_eq_ok_iff.mp (accepted r here)
  exact Validator.structuralRelationship_eq_ok_iff.mpr (restates.writable writable)

/-- Records that are accepted are a batch if they are in another way. -/
theorem RestateAll.batch (restated : RestateAll rs rs') {validator : Validator}
    {ss : List Statement}
    (built : (WriteCall.removeRelationships rs).batch registry validator = .ok ss)
    (accepted : ∀ r ∈ rs', validator.relationship r = .ok ()) :
    ∃ ss, (WriteCall.removeRelationships rs').batch registry validator = .ok ss := by
  have batch := Statement.recordByRecord_deleteEdges registry
  obtain ⟨-, -, built⟩ := bind_eq_ok_iff.mp built
  have each : ∀ r' ∈ rs', ∃ s, Statement.deleteEdge registry r' = .ok s := by
    intro r' member
    obtain ⟨r, here, restates⟩ := restated.backward r' member
    exact restates.deleteEdge_eq ▸ batch.forall_of_built built r here
  obtain ⟨ss, built⟩ := batch.exists_of_forall each
  exact ⟨ss, bind_eq_ok_iff.mpr ⟨(), Validator.all_eq_ok_iff.mpr accepted, built⟩⟩

end Relationship

namespace Memory

variable {registry : Registry} {validator : Validator} {settings : WriterSettings}
  {policy : RemovalPolicy} {rs : List Relationship}

/-! ## Removing -/

/-- A removal that succeeds takes the edges away that one of its records describes. -/
theorem graph_of_removed {s after : Scene Memory ν}
    (done : (writer registry validator settings).removeRelationships rs s = (.ok (), after)) :
    after.world.store.graph = ⟨s.world.store.graph.nodes,
      s.world.store.graph.edges.filter fun e => ∀ r ∈ rs, ¬ r.Describes registry e⟩ := by
  have run : (WriteCall.removeRelationships rs).run (writer registry validator settings) s =
      (.ok (), after) := done
  have kept (e : Edge) : ((rs.map registry.selection).all fun c => !c.covers e) =
      decide (∀ r ∈ rs, ¬ r.Describes registry e) := by
    rw [Bool.eq_iff_iff, decide_eq_true_eq, List.all_map, List.all_eq_true]
    simp only [Function.comp_apply, Bool.not_eq_true', Bool.eq_false_iff, ne_eq,
      Relationship.covers_selection_iff]
  rw [graph_of_run run, WriteCall.effect, Graph.unlinkAll_eq]
  simp only [kept]

/-- Relationships that are removed take the edges away that one of them describes and leave all
else as it is. Other records that restate them come to the same. -/
theorem removeRelationships_exact {s after : Scene Memory ν}
    (done : (writer registry validator settings).removeRelationships rs s = (.ok (), after)) :
    after.world.store.graph.nodes = s.world.store.graph.nodes ∧
    after.world.store.graph.edges =
      (s.world.store.graph.edges.filter fun e => ∀ r ∈ rs, ¬ r.Describes registry e) ∧
    ∀ rs', Relationship.RestateAll rs rs' →
      (validator = .structural ∨ ∀ r ∈ rs', validator.relationship r = .ok ()) →
      ∃ after', (writer registry validator settings).removeRelationships rs' s =
          (.ok (), after') ∧
        after'.world.store.graph = after.world.store.graph := by
  have graph := graph_of_removed done
  refine ⟨by rw [graph], by rw [graph], ?_⟩
  intro rs' restated lenient
  have run : (WriteCall.removeRelationships rs).run (writer registry validator settings) s =
      (.ok (), after) := done
  obtain ⟨ss, built, -⟩ := written_of_run run
  have accepted : ∀ r ∈ rs', validator.relationship r = .ok () := by
    rcases lenient with rfl | accepted
    · obtain ⟨⟨⟩, valid, -⟩ := bind_eq_ok_iff.mp built
      exact restated.accepted (Validator.all_eq_ok_iff.mp valid)
    · exact accepted
  obtain ⟨after', done'⟩ : ∃ after', (WriteCall.removeRelationships rs').run
      (writer registry validator settings) s = (.ok (), after') := by
    by_cases none : rs = []
    · subst none
      obtain rfl := restated.eq_nil
      exact ⟨after, done⟩
    · have some : (WriteCall.removeRelationships rs).count ≠ 0 :=
        fun zero => none (List.length_eq_zero_iff.mp zero)
      exact ok_of_ok run some (restated.batch built accepted)
  refine ⟨after', done', ?_⟩
  rw [graph, graph_of_removed done']
  simp only [restated.apart_iff]

/-- That Ann knows somebody since a year. -/
def known (u : Urn) (year : Int64) (fields : List String) : Relationship :=
  ⟨"KNOWS", .ann, u, .ok ⟨[("since", .int year)], rfl⟩, fields⟩

/-- That Ann knows somebody, with a weight that equals nothing. -/
def weighed (u : Urn) (fields : List String) : Relationship :=
  ⟨"KNOWS", .ann, u, .ok ⟨[("weight", .float (.nan false))], rfl⟩, fields⟩

/-- Of those whom Ann knows Cay is left: that edge has a weight which equals nothing. -/
theorem removeRelationships_exact_ann :
    let w := writer Registry.empty .structural .default
    let old := [known .bob 1843 [], weighed .cay []]
    let rs := [known .bob 1843 ["since", "where"], weighed .cay ["weight"]]
    let rs' := [weighed .cay ["weight", "weight"], known .bob 1843 ["where", "since"]]
    let start : Scene Memory Unit := ⟨.ofStore empty, .ofListeners []⟩
    ∃ before after after',
      w.addRelationships .none old start = (.ok (), before) ∧
      w.removeRelationships rs before = (.ok (), after) ∧
      w.removeRelationships rs' before = (.ok (), after') ∧
      after.world.store.graph.edges.map Edge.key =
        [⟨Registry.empty.node .ann, Registry.empty.node .cay, "KNOWS"⟩] ∧
      after'.world.store.graph = after.world.store.graph := by
  intro w old rs rs' start
  have fresh : start.world.store.failures = [] := rfl
  obtain ⟨before, added, idle, linked⟩ :=
    addRelationships_of_idle .empty .structural .default .none old ⟨_, rfl⟩ fresh
  obtain ⟨after, removed, -⟩ :=
    removeRelationships_of_idle .empty .structural .default rs ⟨_, rfl⟩ idle
  obtain ⟨-, edges, restate⟩ := removeRelationships_exact removed
  have restated : Relationship.RestateAll rs rs' := by
    constructor
    · simp only [rs, List.forall_mem_cons]
      refine ⟨⟨_, List.mem_cons_of_mem _ List.mem_cons_self, rfl, rfl, rfl, rfl, ?_⟩,
        ⟨_, List.mem_cons_self, rfl, rfl, rfl, rfl, ?_⟩, List.forall_mem_nil _⟩
      · simp [known, or_comm]
      · simp [weighed]
    · simp only [rs', List.forall_mem_cons]
      refine ⟨⟨_, List.mem_cons_of_mem _ List.mem_cons_self, rfl, rfl, rfl, rfl, ?_⟩,
        ⟨_, List.mem_cons_self, rfl, rfl, rfl, rfl, ?_⟩, List.forall_mem_nil _⟩
      · simp [weighed]
      · simp [known, or_comm]
  obtain ⟨after', again, same⟩ := restate rs' restated (.inl rfl)
  refine ⟨before, after, after', added, removed, again, ?_, same⟩
  rw [edges, linked]
  decide +kernel

end Memory

/-! ## Adding and removing -/

namespace Graph

variable {registry : Registry} {policy : RemovalPolicy} {first : Relationship}
  {rest : List Relationship}

/-- An edge that a batch has written carries all that the record carries which came last. -/
theorem Replaced.carries_last {before after : Graph}
    (replaced : Replaced registry policy first rest before after) {e : Edge}
    (member : e ∈ after.edges)
    (written : e.key ∈ ((first :: rest).map registry.edge).map Edge.key) :
    ∃ r ∈ first :: rest, e.key = (registry.edge r).key ∧ ∀ name v,
      SortedMap.get? (Statement.carried r.properties) name = some v →
        SortedMap.get? e.properties name = some v := by
  have merged := replaced.properties e member
  generalize (if policy.covers (registry.edge first).key e.key then [] else
    (Edge.lookup before.edges e.key).getD []) = base at merged
  have some : Edge.given ((first :: rest).map registry.edge) e.key ≠ [] := by
    obtain ⟨x, here, sameKey⟩ := List.mem_map.mp written
    refine List.ne_nil_of_mem (List.mem_map_of_mem (List.mem_filter.mpr ⟨here, ?_⟩))
    exact decide_eq_true sameKey
  obtain ⟨earlier, last, given⟩ := (List.eq_nil_or_concat _).resolve_left some
  rw [List.concat_eq_append] at given
  have atLast : last ∈ Edge.given ((first :: rest).map registry.edge) e.key := by
    rw [given]
    exact List.mem_append_right _ List.mem_cons_self
  obtain ⟨x, kept, rfl⟩ := List.mem_map.mp atLast
  obtain ⟨here, sameKey⟩ := List.mem_filter.mp kept
  obtain ⟨r, among, rfl⟩ := List.mem_map.mp here
  refine ⟨r, among, (of_decide_eq_true sameKey).symm, ?_⟩
  intro name v carried
  rw [merged, given, List.foldl_append, List.foldl_cons, List.foldl_nil, SortedMap.get?_merge]
  change (SortedMap.get? (Statement.carried r.properties) name).or _ = _
  rw [carried]
  rfl

/-- Without not-a-number in the filter fields, one record of a batch describes each edge that the
batch has written. -/
theorem exists_describes {g : Graph} (consistent : g.Consistent)
    (shared : ∀ r ∈ first :: rest,
      policy.Admits (registry.edge first).key (registry.edge r).key)
    (numbers : ∀ r ∈ first :: rest, ∀ field ∈ r.filterFields, ∀ v,
      SortedMap.get? (Statement.carried r.properties) field = some v → ¬ v.HoldsNaN)
    {e : Edge} (member : e ∈ (g.replace policy ((first :: rest).map registry.edge)).edges)
    (written : e.key ∈ ((first :: rest).map registry.edge).map Edge.key) :
    ∃ r ∈ first :: rest, r.Describes registry e := by
  obtain ⟨r, among, sameKey, carries⟩ :=
    (replaced_replace consistent shared).carries_last member written
  obtain ⟨source, destination, label⟩ := Relationship.key_eq_iff.mp sameKey
  refine ⟨r, among, source, destination, label, ?_⟩
  intro field declared wanted carried
  refine ⟨wanted, carries field wanted carried, ?_⟩
  exact PropertyValue.equal_self_iff.mpr (numbers r among field declared wanted carried)

end Graph

namespace Memory

variable {registry : Registry} {validator : Validator} {settings : WriterSettings}
  {policy : RemovalPolicy} {rs : List Relationship}

/-- A batch that is removed after it was added leaves no edge of its keys, and leaves all else as
it was then, if no filter field holds not-a-number. -/
theorem removeRelationships_undoes {s linked between after : Scene Memory ν}
    (reachable : Reachable s.world.store)
    (numbers : ∀ r ∈ rs, ∀ field ∈ r.filterFields, ∀ v,
      SortedMap.get? (Statement.carried r.properties) field = some v → ¬ v.HoldsNaN)
    (added : (writer registry validator settings).addRelationships policy rs s =
      (.ok (), linked))
    (meanwhile : between.world.store.graph = linked.world.store.graph)
    (removed : (writer registry validator settings).removeRelationships rs between =
      (.ok (), after)) :
    after.world.store.graph.nodes = linked.world.store.graph.nodes ∧
    after.world.store.graph.edges =
      linked.world.store.graph.edges.filter fun e => ∀ r ∈ rs, e.key ≠ (registry.edge r).key := by
  have run : (WriteCall.addRelationships policy rs).run (writer registry validator settings) s =
      (.ok (), linked) := added
  obtain ⟨ss, built, -⟩ := written_of_run run
  obtain ⟨-, -, built⟩ := bind_eq_ok_iff.mp built
  have described : ∀ e ∈ linked.world.store.graph.edges,
      (∀ r ∈ rs, ¬ r.Describes registry e) ↔ ∀ r ∈ rs, e.key ≠ (registry.edge r).key := by
    intro e member
    constructor
    · intro undescribed r among sameKey
      obtain ⟨first, rest, rfl⟩ := List.exists_cons_of_ne_nil (List.ne_nil_of_mem among)
      rw [graph_of_run run] at member
      have shared : ∀ r ∈ first :: rest,
          policy.Admits (registry.edge first).key (registry.edge r).key :=
        fun r among => Graph.admits_of_addRelationships built _ rfl _ (List.mem_map_of_mem among)
      have written : e.key ∈ ((first :: rest).map registry.edge).map Edge.key :=
        sameKey ▸ List.mem_map_of_mem (List.mem_map_of_mem among)
      obtain ⟨r', among', describes⟩ :=
        Graph.exists_describes reachable.consistent shared numbers member written
      exact undescribed r' among' describes
    · intro apart r among describes
      exact apart r among describes.key
  have graph := graph_of_removed removed
  rw [graph, meanwhile]
  refine ⟨rfl, List.filter_congr ?_⟩
  intro e member
  rw [decide_eq_decide]
  exact described e member

/-- Ann knew Bob since two different years at once, and after a repeated removal nobody but
Cay. -/
theorem removeRelationships_undoes_conflict :
    let w := writer Registry.empty .structural .default
    let rs : List Relationship :=
      [known .bob 1843 ["since"], .likes .bob .bob, known .bob 1842 ["since"]]
    let start : Scene Memory Unit := ⟨.ofStore empty, .ofListeners []⟩
    ∃ before linked between after : Scene Memory Unit,
      w.addRelationships .none [.knows .ann .cay] start = (.ok (), before) ∧
      w.addRelationships .none rs before = (.ok (), linked) ∧
      between.world.store = linked.world.store.failNext (.transient "reset") ∧
      w.removeRelationships rs between = (.ok (), after) ∧
      after.world.store.graph.nodes = linked.world.store.graph.nodes ∧
      after.world.store.graph.edges.map Edge.key =
        [⟨Registry.empty.node .ann, Registry.empty.node .cay, "KNOWS"⟩] := by
  intro w rs start
  have fresh : start.world.store.failures = [] := rfl
  obtain ⟨before, first, idle, graph⟩ :=
    addRelationships_of_idle .empty .structural .default .none [.knows .ann .cay] ⟨_, rfl⟩ fresh
  obtain ⟨linked, added, idle, graphLinked⟩ :=
    addRelationships_of_idle .empty .structural .default .none rs ⟨_, rfl⟩ idle
  let between : Scene Memory Unit :=
    ⟨.ofStore (linked.world.store.failNext (.transient "reset")), linked.fanout⟩
  have line : between.world.store.failures = [.transient "reset"] := congrArg (· ++ _) idle
  have short : between.world.store.failures.length ≤ WriterSettings.default.maxRetries.toNat := by
    rw [line]
    decide
  have transient : ∀ e ∈ between.world.store.failures, e.isTransient = true := by
    rw [line, List.forall_mem_singleton]
    rfl
  obtain ⟨after, removed⟩ := @ok_of_line .empty .structural .default _ (.removeRelationships rs)
    ⟨_, rfl⟩ between short transient
  have free (year : Int64) (v : PropertyValue) (found : some (.int year) = some v) :
      ¬ v.HoldsNaN := by
    intro nan
    cases found
    cases nan
  have numbers : ∀ r ∈ rs, ∀ field ∈ r.filterFields, ∀ v,
      SortedMap.get? (Statement.carried r.properties) field = some v → ¬ v.HoldsNaN := by
    simp only [rs, known, List.forall_mem_cons]
    exact ⟨⟨free 1843, List.forall_mem_nil _⟩, List.forall_mem_nil _,
      ⟨free 1842, List.forall_mem_nil _⟩, List.forall_mem_nil _⟩
  have meanwhile : between.world.store.graph = linked.world.store.graph := rfl
  obtain ⟨nodes, edges⟩ := removeRelationships_undoes (Reachable.empty.addRelationships first)
    numbers added meanwhile removed
  refine ⟨before, linked, between, after, first, added, rfl, removed, nodes, ?_⟩
  rw [edges, graphLinked, graph]
  decide +kernel

end Memory

end RecordGraph
