import RecordGraph.Proofs.Writer.Runs

/-!
# Writing relationships

A batch of relationships replaces the edges in the scope of its policy and merges into all
others. The scope has the label of the first relationship, and the end or the ends that all
relationships share.
-/

namespace RecordGraph.Graph

/-- What a batch of relationships makes of a graph. -/
structure Replaced (registry : Registry) (policy : RemovalPolicy) (first : Relationship)
    (rest : List Relationship) (before after : Graph) : Prop where
  /-- The ends that the policy asks for are those of all relationships. -/
  shared : ∀ r ∈ first :: rest,
    policy.Admits (registry.edge first).key (registry.edge r).key
  unique : (after.edges.map Edge.key).Nodup
  /-- There are the edges of the relationships and the old ones outside the scope. -/
  present : ∀ k, k ∈ after.edges.map Edge.key ↔
    k ∈ ((first :: rest).map registry.edge).map Edge.key ∨
      k ∈ before.edges.map Edge.key ∧ policy.covers (registry.edge first).key k = false
  /-- What the relationships give to an edge is merged into what it had outside the scope. -/
  properties : ∀ e ∈ after.edges, e.properties =
    (Edge.given ((first :: rest).map registry.edge) e.key).foldl SortedMap.merge
      (if policy.covers (registry.edge first).key e.key then []
        else (Edge.lookup before.edges e.key).getD [])
  /-- Old nodes keep their properties, and the new ones are the ends that were missing. -/
  nodes : ∀ node, after.node? node =
    (before.node? node).or
      (if ((first :: rest).map registry.edge).any (·.touches node) then
        some [(Param.urn, .str node.urn)]
      else none)

variable {registry : Registry} {policy : RemovalPolicy} {first : Relationship}
  {rest : List Relationship}

theorem replaced_replace {g : Graph} (consistent : g.Consistent)
    (shared : ∀ r ∈ first :: rest,
      policy.Admits (registry.edge first).key (registry.edge r).key) :
    Replaced registry policy first rest g
      (g.replace policy ((first :: rest).map registry.edge)) := by
  have sorted : ∀ e ∈ (first :: rest).map registry.edge, SortedMap.Sorted e.properties := by
    intro e member
    obtain ⟨r, -, rfl⟩ := List.mem_map.mp member
    exact sorted_edge r
  have unique := (consistent.replace policy ((first :: rest).map registry.edge)).keys
  have edges : (g.replace policy ((first :: rest).map registry.edge)).edges =
      Edge.putAll (g.clear policy (registry.edge first).key).edges
        ((first :: rest).map registry.edge) := edges_linkAll _ _
  have found := Edge.lookup_filter
    (fun k => !policy.covers (registry.edge first).key k) g.edges
  constructor
  · exact shared
  · exact unique
  · intro k
    rw [edges, Edge.mem_keys_putAll, or_comm]
    refine or_congr Iff.rfl ?_
    rw [← Bool.not_eq_true']
    exact Edge.mem_keys_filter fun k => !policy.covers (registry.edge first).key k
  · intro e member
    have here := Edge.lookup_of_mem unique member
    rw [edges, Edge.lookup_putAll sorted, clear, found] at here
    cases covered : policy.covers (registry.edge first).key e.key with
    | true =>
        rw [covered] at here
        split at here
        · exact (Option.some.inj here).symm
        · cases here
    | false =>
        rw [covered] at here
        split at here
        · exact (Option.some.inj here).symm
        · rename_i other
          rw [Edge.given_eq_nil other]
          rw [Bool.not_false, if_pos rfl] at here
          rw [here]
          rfl
  · intro node
    exact node?_linkAll _ _ node

/-- A batch of relationships that is written replaces the edges in the scope of its policy and
merges into all others. -/
theorem addRelationships_replaced {validator : Validator} {settings : WriterSettings}
    {s after : Scene Memory ν} (reachable : Memory.Reachable s.world.store)
    (done : (Memory.writer registry validator settings).addRelationships policy (first :: rest) s =
      (.ok (), after)) :
    Replaced registry policy first rest s.world.store.graph after.world.store.graph := by
  have run : (WriteCall.addRelationships policy (first :: rest)).run
      (Memory.writer registry validator settings) s = (.ok (), after) := done
  obtain ⟨ss, built, -⟩ := Memory.written_of_run run
  obtain ⟨-, -, built⟩ := bind_eq_ok_iff.mp built
  rw [Memory.graph_of_run run]
  refine replaced_replace reachable.consistent ?_
  intro r member
  exact admits_of_addRelationships built _ rfl _ (List.mem_map_of_mem member)

/-- Ann knows nobody but Cay once that has replaced everybody she knew. -/
theorem addRelationships_replaced_source :
    let w := Memory.writer Registry.empty .structural .default
    let start : Scene Memory Unit := ⟨.ofStore .empty, .ofListeners []⟩
    ∃ before after,
      w.addRelationships .none [.knows .ann .bob] start = (.ok (), before) ∧
      w.addRelationships .allFromSource [.knows .ann .cay] before = (.ok (), after) ∧
      Replaced Registry.empty .allFromSource (.knows .ann .cay) [] before.world.store.graph
        after.world.store.graph := by
  intro w start
  have fresh : start.world.store.failures = [] := rfl
  obtain ⟨before, first, idle, -⟩ := Memory.addRelationships_of_idle .empty .structural .default
    .none [.knows .ann .bob] ⟨_, rfl⟩ fresh
  obtain ⟨after, second, -⟩ := Memory.addRelationships_of_idle .empty .structural .default
    .allFromSource [.knows .ann .cay] ⟨_, rfl⟩ idle
  exact ⟨before, after, first, second,
    addRelationships_replaced (Memory.Reachable.empty.addRelationships first) second⟩

end RecordGraph.Graph
