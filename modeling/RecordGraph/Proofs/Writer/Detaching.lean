import RecordGraph.Proofs.Writer.Faithful

/-!
# Removing entities

Entities that are removed take away their nodes and the edges at them, and nothing else. For
the node of an entity can be told by its urn alone in a graph that one writer has made, and an
edge that is left over has both its ends.
-/

namespace RecordGraph

/-- It makes no difference to a graph how entities are listed and whether some are among them
that have no node. -/
theorem Graph.deleteAll_of_same {g : Graph} (consistent : g.Consistent) {registry : Registry}
    {us us' : List Urn}
    (same : ∀ u, g.hasNode (registry.node u) = true → (u ∈ us ↔ u ∈ us')) :
    g.deleteAll (us.map registry.node) = g.deleteAll (us'.map registry.node) := by
  refine Graph.deleteAll_congr consistent ?_
  intro node present
  rw [List.mem_map, List.mem_map]
  constructor
  · rintro ⟨u, member, rfl⟩
    exact ⟨u, (same u present).mp member, rfl⟩
  · rintro ⟨u, member, rfl⟩
    exact ⟨u, (same u present).mpr member, rfl⟩

namespace Memory

variable {registry : Registry} {validator : Validator} {settings : WriterSettings}
  {calls : List WriteCall} {m : Memory} {us : List Urn}

/-- Whether a node that is there is that of one of some entities shows in its urn. -/
theorem History.mem_nodes_iff (history : History registry validator calls m) {node : NodeRef}
    (present : m.graph.hasNode node = true) :
    node ∈ us.map registry.node ↔ node.urn ∈ us.map Urn.text := by
  rw [List.mem_map, List.mem_map]
  refine exists_congr fun u => and_congr_right fun _ => ?_
  rw [eq_comm, history.node_eq_iff present, eq_comm]

/-- The nodes and the edges that are left without some entities. -/
theorem History.deleteAll_eq (history : History registry validator calls m) :
    m.graph.deleteAll (us.map registry.node) =
      ⟨m.graph.nodes.filter fun entry => entry.1.urn ∉ us.map Urn.text,
        m.graph.edges.filter fun e =>
          e.source.urn ∉ us.map Urn.text ∧ e.destination.urn ∉ us.map Urn.text⟩ := by
  have consistent := history.reachable.consistent
  rw [Graph.deleteAll_eq consistent, Graph.mk.injEq]
  constructor
  · refine List.filter_congr ?_
    intro entry stored
    rw [decide_eq_decide, history.mem_nodes_iff (Graph.hasNode_of_mem stored)]
  · refine List.filter_congr ?_
    intro e member
    obtain ⟨source, destination⟩ := consistent.ends e member
    rw [decide_eq_decide, history.mem_nodes_iff source, history.mem_nodes_iff destination]

/-- Entities that are removed take away the nodes with their urns and every edge with such an
end, and leave all else as it is. Entities without a node do not count, and neither does the
way in which the entities are listed. -/
theorem removeEntities_exact {s after : Scene Memory ν}
    (history : History registry validator calls s.world.store)
    (done : (writer registry validator settings).removeEntities us s = (.ok (), after)) :
    after.world.store.graph.nodes =
      (s.world.store.graph.nodes.filter fun entry => entry.1.urn ∉ us.map Urn.text) ∧
    after.world.store.graph.edges =
      (s.world.store.graph.edges.filter fun e =>
        e.source.urn ∉ us.map Urn.text ∧ e.destination.urn ∉ us.map Urn.text) ∧
    ∀ us' result after',
      (∀ u, s.world.store.graph.hasNode (registry.node u) = true → (u ∈ us ↔ u ∈ us')) →
      (writer registry validator settings).removeEntities us' s = (result, after') →
      after'.world.store.graph = after.world.store.graph ∧ (us ≠ [] → result = .ok ()) := by
  have run : (WriteCall.removeEntities us).run (writer registry validator settings) s =
      (.ok (), after) := done
  have graph : after.world.store.graph =
      s.world.store.graph.deleteAll (us.map registry.node) := graph_of_run run
  refine ⟨by rw [graph, history.deleteAll_eq], by rw [graph, history.deleteAll_eq], ?_⟩
  intro us' result after' same done'
  have run' : (WriteCall.removeEntities us').run (writer registry validator settings) s =
      (result, after') := done'
  have succeeds : us ≠ [] → result = .ok () := by
    intro some
    have counted : (WriteCall.removeEntities us).count ≠ 0 :=
      fun zero => some (List.length_eq_zero_iff.mp zero)
    have built : ∃ ss, (WriteCall.removeEntities us').batch registry validator = .ok ss :=
      ⟨_, rfl⟩
    obtain ⟨again, worked⟩ := ok_of_ok run counted built
    exact congrArg Prod.fst (run'.symm.trans worked)
  refine ⟨?_, succeeds⟩
  have agreed := Graph.deleteAll_of_same history.reachable.consistent same
  cases result with
  | ok worked => rw [graph, agreed, graph_of_run run', WriteCall.effect]
  | error e =>
      -- Only where there was nothing to remove can a removal of as much fail.
      obtain rfl : us = [] := by
        by_contra some
        cases succeeds some
      rw [(unchanged_of_run run').graph, graph]
      rfl

/-- Once Ann is removed nothing is left but that Bob knows Cay. To remove Dan as well, who was
never there, makes no difference. -/
theorem removeEntities_exact_ann :
    let w := writer Registry.empty .structural .default
    let rs : List Relationship :=
      [.knows .ann .bob, .knows .bob .cay, .likes .ann .ann, .likes .cay .ann]
    let start : Scene Memory Unit := ⟨.ofStore empty, .ofListeners []⟩
    ∃ before after after' : Scene Memory Unit,
      w.addRelationships .none rs start = (.ok (), before) ∧
      w.removeEntities [.dan, .ann, .ann] before = (.ok (), after) ∧
      w.removeEntities [.ann] before = (.ok (), after') ∧
      after.world.store.graph.nodes.map Prod.fst =
        [Registry.empty.node .bob, Registry.empty.node .cay] ∧
      after.world.store.graph.edges.map Edge.key =
        [⟨Registry.empty.node .bob, Registry.empty.node .cay, "KNOWS"⟩] ∧
      after'.world.store.graph = after.world.store.graph := by
  intro w rs start
  have fresh : start.world.store.failures = [] := rfl
  obtain ⟨before, added, idle, linked⟩ :=
    addRelationships_of_idle .empty .structural .default .none rs ⟨_, rfl⟩ fresh
  obtain ⟨after, removed, -⟩ :=
    removeEntities_of_idle .empty .structural .default [.dan, .ann, .ann] idle
  obtain ⟨after', again, -⟩ := removeEntities_of_idle .empty .structural .default [.ann] idle
  have absent : before.world.store.graph.hasNode (Registry.empty.node .dan) = false := by
    rw [linked]
    decide +kernel
  have same (u : Urn) (present : before.world.store.graph.hasNode (Registry.empty.node u) = true) :
      u ∈ [.dan, .ann, .ann] ↔ u ∈ [.ann] := by
    rw [List.mem_cons, List.mem_cons, List.mem_singleton, or_self]
    refine or_iff_right ?_
    rintro rfl
    cases absent.symm.trans present
  obtain ⟨nodes, edges, alike⟩ :=
    removeEntities_exact (History.empty.addRelationships added) removed
  obtain ⟨graph, -⟩ := alike [.ann] _ after' same again
  refine ⟨before, after, after', added, removed, again, ?_, ?_, graph⟩
  · rw [nodes, linked]
    decide +kernel
  · rw [edges, linked]
    decide +kernel

end Memory

end RecordGraph
