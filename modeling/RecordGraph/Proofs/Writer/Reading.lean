import Mathlib.Data.List.Nodup
import Mathlib.Data.List.Perm.Subperm
import RecordGraph.Proofs.Statement.Writable
import RecordGraph.Proofs.Writer.Faithful

/-!
# Reading edges

The edges of a label that leave a node are those between it and each other node. No two edges
have the same ends and label, so a pair of nodes has one at most.
-/

namespace RecordGraph

namespace Graph

/-! ## Edges by their destinations -/

variable {g : Graph}

/-- Between two nodes there is one edge of a label at most. -/
theorem Consistent.length_connects_le (consistent : g.Consistent) (source destination : NodeRef)
    (relationship : String) :
    (g.edges.filter (·.connects source destination relationship)).length ≤ 1 := by
  let k : EdgeKey := ⟨source, destination, relationship⟩
  have unique : ((g.edges.filter (·.connects source destination relationship)).map
      Edge.key).Nodup := consistent.keys.sublist (List.filter_sublist.map Edge.key)
  have same : (g.edges.filter (·.connects source destination relationship)).map Edge.key ⊆ [k] := by
    intro key member
    obtain ⟨e, found, rfl⟩ := List.mem_map.mp member
    have connects := (List.mem_filter.mp found).2
    rw [Edge.connects_eq, decide_eq_true_eq] at connects
    exact List.mem_singleton.mpr connects
  rw [← List.length_map (f := Edge.key)]
  exact (List.Nodup.subperm unique same).length_le

/-- The edges that leave a node are those to each of the nodes, in some order. -/
theorem Consistent.outgoing_perm (consistent : g.Consistent) {nodes : List NodeRef}
    (distinct : nodes.Nodup) (all : ∀ node, g.hasNode node = true → node ∈ nodes)
    (source : NodeRef) (relationship : String) :
    (g.edges.filter fun e => e.source = source && e.relationship = relationship).Perm
      (nodes.flatMap fun destination =>
        g.edges.filter (·.connects source destination relationship)) := by
  have edges : g.edges.Nodup := consistent.keys.of_map
  have once : (nodes.flatMap fun destination =>
      g.edges.filter (·.connects source destination relationship)).Nodup := by
    refine List.nodup_flatMap.mpr ⟨fun destination _ => edges.filter _, ?_⟩
    refine distinct.imp ?_
    intro d d' differ e left right
    have toLeft := (List.mem_filter.mp left).2
    have toRight := (List.mem_filter.mp right).2
    rw [Edge.connects_eq, decide_eq_true_eq, Edge.key, EdgeKey.mk.injEq] at toLeft toRight
    exact differ (toLeft.2.1.symm.trans toRight.2.1)
  refine (List.perm_ext_iff_of_nodup (edges.filter _) once).mpr ?_
  intro e
  simp only [List.mem_flatMap, List.mem_filter, Edge.connects_eq, Edge.key, EdgeKey.mk.injEq,
    Bool.and_eq_true, decide_eq_true_eq]
  constructor
  · rintro ⟨stored, leaves, labelled⟩
    exact ⟨e.destination, all _ (consistent.ends e stored).2, stored, leaves, rfl, labelled⟩
  · rintro ⟨destination, -, stored, leaves, -, labelled⟩
    exact ⟨stored, leaves, labelled⟩

/-- The urns of the nodes. -/
def urns (g : Graph) : List Urn :=
  g.nodes.filterMap fun entry => (Urn.parse entry.1.urn).toOption

theorem filterMap_urn_of_named {registry : Registry} {nodes : List (NodeRef × PropertyMap)}
    (named : ∀ entry ∈ nodes, ∃ u, entry.1 = registry.node u) :
    (nodes.filterMap fun entry => (Urn.parse entry.1.urn).toOption).map registry.node =
      nodes.map Prod.fst := by
  induction nodes with
  | nil => rfl
  | cons entry rest ih =>
      obtain ⟨u, same⟩ := named entry List.mem_cons_self
      have parsed : (Urn.parse entry.1.urn).toOption = some u := by
        rw [same]
        exact congrArg Except.toOption u.parse_text
      have later := ih fun other later => named other (List.mem_cons_of_mem _ later)
      rw [List.filterMap_cons, parsed]
      exact congrArg₂ List.cons same.symm later

end Graph

/-! ## Two ways to read -/

namespace Memory

variable {registry : Registry} {validator : Validator} {settings : WriterSettings}

theorem getEdgesFromSource_eq {label : String} (valid : Identifier.isValid label = true)
    (source : Urn) (world : World Memory) :
    ((writer registry validator settings).getEdgesFromSource source label world).1 =
      .ok ((world.store.graph.edges.filter fun e =>
        e.source = registry.node source && e.relationship = label).map Edge.properties) := by
  unfold Writer.getEdgesFromSource Statement.matchEdgesFromSource
  rw [Statement.checkedLabel_eq_ok valid]
  rfl

theorem getEdges_eq {r : Relationship} (valid : Identifier.isValid r.label = true)
    (world : World Memory) :
    ((writer registry validator settings).getEdges r world).1 =
      .ok ((world.store.graph.edges.filter
        (·.connects (registry.node r.source) (registry.node r.destination) r.label)).map
          Edge.properties) := by
  unfold Writer.getEdges Statement.matchEdges
  rw [Statement.checkedLabel_eq_ok valid]
  rfl

variable {calls : List WriteCall}

/-- Every node is the node of its urn. -/
theorem History.map_node_urns {m : Memory} (history : History registry validator calls m) :
    m.graph.urns.map registry.node = m.graph.nodes.map Prod.fst := by
  refine Graph.filterMap_urn_of_named ?_
  intro entry stored
  obtain ⟨u, same, -⟩ := history.exists_urn stored
  exact ⟨u, same⟩

theorem History.nodup_nodes {m : Memory} (history : History registry validator calls m) :
    (m.graph.nodes.map Prod.fst).Nodup :=
  List.pairwise_map.mpr (history.sorted.imp SortedMap.ne_of_lt)

/-- The edges of a label that leave an entity are, up to their order, those that are found
between it and each entity with a node. Between two entities one is found at most. -/
theorem History.edges_agree {world : World Memory}
    (history : History registry validator calls world.store) (settings : WriterSettings)
    (source : Urn) {label : String} (valid : Identifier.isValid label = true) :
    let w := writer registry validator settings
    let g := world.store.graph
    (g.urns.map Urn.text = g.nodes.map (·.1.urn) ∧ g.urns.Nodup) ∧
    ∃ (outgoing : List PropertyMap) (between : Urn → List PropertyMap),
      (w.getEdgesFromSource source label world).1 = .ok outgoing ∧
      (∀ r : Relationship, r.source = source → r.label = label →
        (w.getEdges r world).1 = .ok (between r.destination)) ∧
      outgoing.Perm (g.urns.flatMap between) ∧
      ∀ destination, (between destination).length ≤ 1 := by
  intro w g
  have consistent := history.reachable.consistent
  have named := history.map_node_urns
  have distinct := history.nodup_nodes
  have texts : g.urns.map Urn.text = g.nodes.map (·.1.urn) := by
    have urns := congrArg (List.map NodeRef.urn) named
    rwa [List.map_map, List.map_map] at urns
  refine ⟨⟨texts, (named ▸ distinct).of_map⟩, _, fun destination =>
    (g.edges.filter (·.connects (registry.node source) (registry.node destination) label)).map
      Edge.properties, getEdgesFromSource_eq valid source world, ?_, ?_, ?_⟩
  · rintro r rfl rfl
    exact getEdges_eq valid world
  · have all : ∀ node, g.hasNode node = true → node ∈ g.urns.map registry.node := by
      intro node present
      rw [named]
      exact SortedMap.mem_keys_iff.mpr present
    have divided := consistent.outgoing_perm (named ▸ distinct) all (registry.node source) label
    rw [List.flatMap_map] at divided
    exact (divided.map Edge.properties).trans (List.map_flatMap ▸ .refl _)
  · intro destination
    rw [List.length_map]
    exact consistent.length_connects_le _ _ _

/-- Whom Ann knows and likes. -/
def acquaintances : List Relationship :=
  [⟨"KNOWS", .ann, .cay, .ok ⟨[("since", .int 1815)], rfl⟩, []⟩, .likes .ann .bob,
    .knows .bob .ann, ⟨"KNOWS", .ann, .bob, .ok ⟨[("since", .int 1843)], rfl⟩, []⟩]

/-- Ann knows Cay and Bob, which is read in the order in which it was written or by urn. -/
theorem History.edges_agree_ann :
    let w := writer Registry.empty .structural .default
    let start : Scene Memory Unit := ⟨.ofStore .empty, .ofListeners []⟩
    let outgoing : List PropertyMap := [[("since", .int 1815)], [("since", .int 1843)]]
    ∃ (after : Scene Memory Unit) (between : Urn → List PropertyMap),
      w.addRelationships .none acquaintances start = (.ok (), after) ∧
      (w.getEdgesFromSource .ann "KNOWS" after.world).1 = .ok outgoing ∧
      (w.getEdges (.knows .ann .bob) after.world).1 = .ok (between .bob) ∧
      outgoing.Perm ([.ann, .bob, .cay].flatMap between) := by
  intro w start outgoing
  have fresh : start.world.store.failures = [] := rfl
  obtain ⟨after, added, -, graph⟩ :=
    addRelationships_of_idle .empty .structural .default .none acquaintances ⟨_, rfl⟩ fresh
  have valid : Identifier.isValid "KNOWS" = true := rfl
  obtain ⟨-, rows, between, leaving, each, permuted, -⟩ :=
    edges_agree (History.empty.addRelationships added) .default .ann valid
  have listed : (Graph.empty.replace .none (acquaintances.map Registry.empty.edge)).urns =
      [.ann, .bob, .cay] := rfl
  have found : ((Graph.empty.replace .none (acquaintances.map Registry.empty.edge)).edges.filter
      fun e => e.source = Registry.empty.node .ann && e.relationship = "KNOWS").map
        Edge.properties = [[("since", .int 1815)], [("since", .int 1843)]] := rfl
  obtain rfl : rows = outgoing := by
    have read := leaving.symm.trans (getEdgesFromSource_eq valid .ann after.world)
    rw [graph] at read
    exact (Except.ok.inj read).trans found
  rw [graph] at permuted
  exact ⟨after, between, added, leaving, each _ rfl rfl, listed ▸ permuted⟩

end Memory

end RecordGraph
