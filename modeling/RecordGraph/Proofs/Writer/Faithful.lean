import RecordGraph.Proofs.Validation
import RecordGraph.Proofs.Writer.History

/-!
# Graphs that stand for entities

Every node that calls lead to stands for one entity: its label and its urn are those of the
entity, and so is its property `urn`, whatever records say about it. With records that the
structural validator accepts, nothing nested is stored.
-/

namespace RecordGraph

/-! ## Nodes of entities -/

/-- Every node is that of some entity. -/
def Graph.Named (registry : Registry) (g : Graph) : Prop :=
  ∀ node m, g.node? node = some m → ∃ u, node = registry.node u

namespace WriteCall

variable {registry : Registry}

theorem effect_named (call : WriteCall) {g : Graph} (named : g.Named registry) :
    (call.effect registry g).Named registry := by
  intro node m found
  cases call with
  | addEntities es =>
      change (g.upsertAll (es.map registry.written)).node? node = some m at found
      rw [Graph.node?_upsertAll] at found
      split at found
      · rename_i written
        simp only [List.map_map, List.mem_map, Function.comp_apply] at written
        obtain ⟨e, -, same⟩ := written
        exact ⟨e.urn, same.symm⟩
      · exact named node m found
  | removeEntities us =>
      change (g.deleteAll (us.map registry.node)).node? node = some m at found
      rw [Graph.node?_deleteAll] at found
      split at found
      · cases found
      · exact named node m found
  | addRelationships policy rs =>
      change (g.replace policy (rs.map registry.edge)).node? node = some m at found
      rw [Graph.node?_replace] at found
      rcases Option.or_eq_some_iff.mp found with old | ⟨-, new⟩
      · exact named node m old
      · split at new
        · rename_i touched
          simp only [List.any_map, List.any_eq_true, Function.comp_apply, Edge.touches,
            Bool.or_eq_true, decide_eq_true_eq] at touched
          obtain ⟨r, -, source | destination⟩ := touched
          · exact ⟨r.source, source.symm⟩
          · exact ⟨r.destination, destination.symm⟩
        · cases new
  | removeRelationships rs =>
      change (g.unlinkAll (rs.map registry.selection)).node? node = some m at found
      rw [Graph.unlinkAll_eq] at found
      exact named node m found

/-- No call writes the urn of an entity as one of its properties. -/
theorem get?_urn_of_mem_gives {u : Urn} {call : WriteCall} {m : PropertyMap}
    (given : m ∈ call.gives u) : SortedMap.get? m Param.urn = none := by
  cases call with
  | addEntities es =>
      obtain ⟨e, -, rfl⟩ := List.mem_map.mp given
      rw [SortedMap.get?_erase, if_pos rfl]
  | removeEntities us => cases given
  | addRelationships policy rs => cases given
  | removeRelationships rs => cases given

/-- The urn of an entity is always among its properties. -/
theorem get?_urn_of_described {u : Urn} {calls : List WriteCall} {m : PropertyMap}
    (found : described u calls = some m) :
    SortedMap.get? m Param.urn = some (Statement.urnValue u) := by
  unfold described at found
  split at found
  · cases found
    have unwritten : ∀ m ∈ (since u calls).flatMap (·.gives u),
        SortedMap.get? m Param.urn = none := by
      intro m member
      obtain ⟨call, -, given⟩ := List.mem_flatMap.mp member
      exact get?_urn_of_mem_gives given
    rw [SortedMap.get?_foldl_merge_of_absent unwritten]
    rfl
  · cases found

/-! ## Flat properties -/

theorem flat_properties {call : WriteCall} {ss : List Statement}
    (built : call.batch registry .structural = .ok ss) :
    ∀ m ∈ call.properties, PropertyMap.IsFlat m := by
  intro m member
  cases call with
  | addEntities es =>
      obtain ⟨valid, accepted, -⟩ := bind_eq_ok_iff.mp built
      obtain ⟨e, here, rfl⟩ := List.mem_map.mp member
      have writable : e.Writable :=
        Validator.structuralEntity_eq_ok_iff.mp (Validator.all_eq_ok_iff.mp accepted e here)
      intro field kept
      exact writable.flat field ((SortedMap.erase_sublist _ _).subset kept)
  | removeEntities us => cases member
  | addRelationships policy rs =>
      obtain ⟨valid, accepted, -⟩ := bind_eq_ok_iff.mp built
      obtain ⟨r, here, rfl⟩ := List.mem_map.mp member
      have writable : r.Writable :=
        Validator.structuralRelationship_eq_ok_iff.mp (Validator.all_eq_ok_iff.mp accepted r here)
      exact writable.flat
  | removeRelationships rs => cases member

end WriteCall

theorem Graph.closed_flat : Graph.Closed PropertyMap.IsFlat where
  placeholder := by
    intro node field member
    cases List.mem_singleton.mp member
    exact .primitive (.str _)
  merge := by
    intro base extra old new field member
    rcases SortedMap.mem_merge member with added | kept
    · exact new field added
    · exact old field kept

/-! ## Faithful graphs -/

/-- A graph whose nodes stand for entities, each for another one, and that stores nothing
nested. -/
structure Graph.Faithful (registry : Registry) (g : Graph) : Prop where
  named : ∀ entry ∈ g.nodes, ∃ u, Urn.parse entry.1.urn = .ok u ∧
    entry.1.label = registry.labelFor u ∧
    SortedMap.get? entry.2 Param.urn = some (.str entry.1.urn)
  distinct : g.nodes.Pairwise fun a b => a.1.urn ≠ b.1.urn
  flatNodes : ∀ entry ∈ g.nodes, PropertyMap.IsFlat entry.2
  flatEdges : ∀ e ∈ g.edges, PropertyMap.IsFlat e.properties

namespace Memory.History

variable {registry : Registry} {validator : Validator} {calls : List WriteCall} {m : Memory}

theorem named (history : History registry validator calls m) : m.graph.Named registry := by
  refine history.induct (P := fun _ g => g.Named registry) ?_ ?_
  · intro node m found
    cases found
  · intro calls call ss g named built
    exact call.effect_named named

theorem each_flat (history : History registry .structural calls m) :
    m.graph.Each PropertyMap.IsFlat := by
  refine history.induct (P := fun _ g => g.Each PropertyMap.IsFlat) .empty ?_
  intro calls call ss g each built
  exact call.effect_each Graph.closed_flat (WriteCall.flat_properties built) each

theorem sorted (history : History registry validator calls m) : SortedMap.Sorted m.graph.nodes :=
  history.reachable.consistent.sorted

/-- The entity that a stored node stands for. -/
theorem exists_urn (history : History registry validator calls m)
    {entry : NodeRef × PropertyMap} (stored : entry ∈ m.graph.nodes) :
    ∃ u, entry.1 = registry.node u ∧
      SortedMap.get? entry.2 Param.urn = some (Statement.urnValue u) := by
  have found : m.graph.node? entry.1 = some entry.2 :=
    (SortedMap.get?_eq_some_iff history.sorted).mpr stored
  obtain ⟨u, same⟩ := history.named entry.1 entry.2 found
  have described : WriteCall.described u calls = some entry.2 := by
    rw [← history.node?_eq, ← same]
    exact found
  exact ⟨u, same, WriteCall.get?_urn_of_described described⟩

/-- A node with the urn of an entity is the node of the entity. -/
theorem node_eq_iff (history : History registry validator calls m) {node : NodeRef}
    (present : m.graph.hasNode node = true) (u : Urn) :
    node = registry.node u ↔ node.urn = u.text := by
  obtain ⟨properties, found⟩ := Option.isSome_iff_exists.mp present
  obtain ⟨v, rfl⟩ := history.named node properties found
  rw [registry.node_inj]
  constructor
  · rintro rfl
    rfl
  · intro texts
    exact Urn.text_injective texts

theorem eq_node_iff (history : History registry validator calls m)
    {entry : NodeRef × PropertyMap} (stored : entry ∈ m.graph.nodes) (u : Urn) :
    entry.1 = registry.node u ↔ entry.1.urn = u.text :=
  history.node_eq_iff (Graph.hasNode_of_mem stored) u

theorem graph_faithful (history : History registry .structural calls m) :
    m.graph.Faithful registry where
  named := by
    intro entry stored
    obtain ⟨u, node, property⟩ := history.exists_urn stored
    rw [node]
    exact ⟨u, u.parse_text, rfl, property⟩
  distinct := by
    refine List.Pairwise.imp_of_mem ?_ history.sorted
    intro a b left right less same
    obtain ⟨u, node, -⟩ := history.exists_urn left
    have other : b.1 = registry.node u := by
      rw [history.eq_node_iff right, ← same, ← history.eq_node_iff left]
      exact node
    exact SortedMap.ne_of_lt less (node.trans other.symm)
  flatNodes := by
    intro entry stored
    exact history.each_flat.nodes entry.1 entry.2
      ((SortedMap.get?_eq_some_iff history.sorted).mpr stored)
  flatEdges := history.each_flat.edges

/-- Whatever records were written, the graph is faithful, and a reader finds under a urn all
nodes with that urn, which are no more than one. -/
theorem faithful {world : World Memory}
    (history : History registry .structural calls world.store) :
    world.store.graph.Faithful registry ∧
    ∀ (settings : WriterSettings) (u : Urn),
      let rows := (world.store.graph.nodes.filter fun entry => entry.1.urn = u.text).map Prod.snd
      ((writer registry .structural settings).getAllNodes u world).1 = .ok rows ∧
        rows.length ≤ 1 := by
  refine ⟨history.graph_faithful, ?_⟩
  intro settings u rows
  have found : rows = (world.store.graph.node? (registry.node u)).toList := by
    rw [Graph.node?, ← SortedMap.values_eq_get? history.sorted]
    refine congrArg _ (List.filter_congr ?_)
    intro entry stored
    rw [decide_eq_decide, history.eq_node_iff stored]
  rw [found]
  exact ⟨rfl, Option.length_toList_le⟩

/-- Ann, for whom a urn that is no text was written, has her own, and so has Bob, who is known
by her alone. -/
theorem faithful_hostile :
    let calls : List WriteCall :=
      [.addEntities [⟨.ann, .ok ⟨[("tags", .list [.str "poet"]), ("urn", .int 3)], rfl⟩⟩],
        .addRelationships .allFromSource
          [⟨"KNOWS", .ann, .bob, .ok ⟨[("urn", .str "since 1843")], rfl⟩, []⟩]]
    ∃ world : World Memory,
      Memory.History Registry.empty .structural calls world.store ∧
      world.store.graph.node? (Registry.empty.node .ann) =
        some [("tags", .list [.str "poet"]), ("urn", .str "urn:a:person:ann")] ∧
      world.store.graph.node? (Registry.empty.node .bob) =
        some [("urn", .str "urn:a:person:bob")] ∧
      world.store.graph.Faithful Registry.empty := by
  intro calls
  have built : ∀ call ∈ calls, ∃ ss, call.batch Registry.empty .structural = .ok ss := by
    simp only [calls, List.forall_mem_cons]
    exact ⟨⟨_, rfl⟩, ⟨_, rfl⟩, by simp⟩
  obtain ⟨world, history⟩ := exists_history built
  exact ⟨world, history, history.node?_eq .ann, history.node?_eq .bob, history.faithful.1⟩

end Memory.History

end RecordGraph
