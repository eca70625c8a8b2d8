import Mathlib.Data.List.DropRight
import RecordGraph.Proofs.Writer.Runs

/-!
# Histories of a graph in memory

The calls that succeeded, in their order, determine every node. What became of a node before
its last deletion is forgotten, and of what comes after it only the entities written under its
own urn add to its properties.
-/

namespace RecordGraph

namespace Memory

/-- What the calls of a writer make of an empty graph, while failures are put in line, with the
calls that succeeded. -/
inductive History (registry : Registry) (validator : Validator) :
    List WriteCall → Memory → Prop
  | empty : History registry validator [] empty
  | failNext {calls : List WriteCall} {m : Memory} (before : History registry validator calls m)
      (e : StoreError) : History registry validator calls (m.failNext e)
  | failed {ν : Type} {calls : List WriteCall} {s after : Scene Memory ν} {e : GraphError}
      (before : History registry validator calls s.world.store) (settings : WriterSettings)
      (call : WriteCall)
      (done : call.run (writer registry validator settings) s = (.error e, after)) :
      History registry validator calls after.world.store
  | succeeded {ν : Type} {calls : List WriteCall} {s after : Scene Memory ν}
      (before : History registry validator calls s.world.store) (settings : WriterSettings)
      (call : WriteCall)
      (done : call.run (writer registry validator settings) s = (.ok (), after)) :
      History registry validator (calls ++ [call]) after.world.store

variable {registry : Registry} {validator : Validator} {calls : List WriteCall} {m : Memory}

theorem History.reachable (history : History registry validator calls m) : Reachable m := by
  induction history with
  | empty => exact .empty
  | failNext before e ih => exact ih.failNext e
  | failed before settings call done ih => exact ih.run registry validator settings call done
  | succeeded before settings call done ih => exact ih.run registry validator settings call done

theorem History.addRelationships {s after : Scene Memory ν} {settings : WriterSettings}
    (before : History registry validator calls s.world.store) {policy : RemovalPolicy}
    {rs : List Relationship}
    (done : (writer registry validator settings).addRelationships policy rs s =
      (.ok (), after)) :
    History registry validator (calls ++ [.addRelationships policy rs]) after.world.store :=
  before.succeeded settings (.addRelationships policy rs) done

/-- Whatever holds of the empty graph and is carried on by every effect of a call holds of the
graph and the calls of every history. -/
theorem History.induct {P : List WriteCall → Graph → Prop} (empty : P [] Graph.empty)
    (effect : ∀ calls (call : WriteCall) ss g, P calls g →
      call.batch registry validator = .ok ss → P (calls ++ [call]) (call.effect registry g))
    (history : History registry validator calls m) : P calls m.graph := by
  induction history with
  | empty => exact empty
  | failNext before e ih => exact ih
  | failed before settings call done ih => exact (unchanged_of_run done).graph ▸ ih
  | succeeded before settings call done ih =>
      obtain ⟨ss, built, -⟩ := written_of_run done
      rw [graph_of_run done]
      exact effect _ call ss _ ih built

/-- Calls whose batches are built are the calls of a history. -/
theorem exists_history (built : ∀ call ∈ calls, ∃ ss, call.batch registry validator = .ok ss) :
    ∃ world : World Memory, History registry validator calls world.store := by
  have idle : ∃ s : Scene Memory Unit, History registry validator calls s.world.store ∧
      s.world.store.failures = [] := by
    induction calls using List.reverseRecOn with
    | nil => exact ⟨⟨.ofStore .empty, .ofListeners []⟩, .empty, rfl⟩
    | append_singleton calls call ih =>
        obtain ⟨s, history, idle⟩ := ih fun other member =>
          built other (List.mem_append_left _ member)
        have last := built call (List.mem_append_right _ List.mem_cons_self)
        obtain ⟨after, done, idle, -⟩ := @ok_of_idle registry validator .default _ call last s idle
        exact ⟨after, history.succeeded .default call done, idle⟩
  obtain ⟨s, history, -⟩ := idle
  exact ⟨s.world, history⟩

end Memory

namespace WriteCall

/-! ## What a call means for one entity -/

/-- Whether a call deletes an entity. -/
def removes (u : Urn) : WriteCall → Bool
  | removeEntities us => decide (u ∈ us)
  | _ => false

/-- Whether a call makes sure that there is a node for an entity. -/
def mentions (u : Urn) : WriteCall → Bool
  | addEntities es => es.any fun e => e.urn = u
  | addRelationships _ rs => rs.any fun r => r.source = u || r.destination = u
  | _ => false

/-- The properties that a call writes to an entity, one record after another. -/
def gives (u : Urn) : WriteCall → List PropertyMap
  | addEntities es => (es.filter fun e => e.urn = u).map fun e =>
      SortedMap.erase (Statement.carried e.properties) Param.urn
  | _ => []

theorem gives_eq_nil {u : Urn} {call : WriteCall} (unmentioned : call.mentions u = false) :
    call.gives u = [] := by
  cases call with
  | addEntities es =>
      have absent : es.filter (fun e => e.urn = u) = [] := by
        rw [List.filter_eq_nil_iff]
        exact List.any_eq_false.mp unmentioned
      rw [gives, absent, List.map_nil]
  | removeEntities us => rfl
  | addRelationships policy rs => rfl
  | removeRelationships rs => rfl

variable (registry : Registry)

theorem node_mem_written (es : List Entity) (u : Urn) :
    registry.node u ∈ (es.map registry.written).map Prod.fst ↔
      (addEntities es).mentions u = true := by
  simp only [mentions, List.map_map, List.mem_map, Function.comp_apply, List.any_eq_true,
    decide_eq_true_eq, Registry.written, registry.node_inj]

theorem writtenTo_node (es : List Entity) (u : Urn) :
    Graph.writtenTo (es.map registry.written) (registry.node u) = (addEntities es).gives u := by
  have same : ((fun w : NodeRef × PropertyMap => decide (w.1 = registry.node u)) ∘
      registry.written) = fun e => decide (e.urn = u) := by
    funext e
    simp only [Function.comp_apply, Registry.written, registry.node_inj]
  rw [Graph.writtenTo, List.filter_map, List.map_map, same]
  rfl

theorem touches_node (policy : RemovalPolicy) (rs : List Relationship) (u : Urn) :
    (rs.map registry.edge).any (·.touches (registry.node u)) =
      (addRelationships policy rs).mentions u := by
  simp only [mentions, List.any_map, Function.comp_def, Edge.touches, Registry.edge,
    registry.node_inj]

/-- What a call does to the node of an entity. -/
theorem node?_effect (call : WriteCall) (g : Graph) (u : Urn) :
    (call.effect registry g).node? (registry.node u) =
      if call.removes u then none
      else if call.mentions u then
        some ((call.gives u).foldl SortedMap.merge
          ((g.node? (registry.node u)).getD (Graph.placeholder (registry.node u))))
      else g.node? (registry.node u) := by
  cases call with
  | addEntities es =>
      change (g.upsertAll (es.map registry.written)).node? (registry.node u) = _
      rw [Graph.node?_upsertAll, writtenTo_node]
      simp only [node_mem_written]
      rfl
  | removeEntities us =>
      have deleted : registry.node u ∈ us.map registry.node ↔ u ∈ us := by
        simp [registry.node_inj]
      change (g.deleteAll (us.map registry.node)).node? (registry.node u) = _
      rw [Graph.node?_deleteAll]
      simp only [deleted, removes, mentions, decide_eq_true_eq, Bool.false_eq_true, ↓reduceIte]
  | addRelationships policy rs =>
      change (g.replace policy (rs.map registry.edge)).node? (registry.node u) = _
      rw [Graph.node?_replace, touches_node registry policy]
      cases (addRelationships policy rs).mentions u with
      | true => cases g.node? (registry.node u) <;> rfl
      | false => exact Option.or_none
  | removeRelationships rs =>
      change (g.unlinkAll (rs.map registry.selection)).node? (registry.node u) = _
      rw [Graph.unlinkAll_eq]
      rfl

/-! ## What calls mean for one entity -/

/-- The calls since the last one that deletes an entity. -/
def since (u : Urn) (calls : List WriteCall) : List WriteCall :=
  calls.rtakeWhile fun call => !call.removes u

/-- The properties of an entity after calls, if there is a node for it. -/
def described (u : Urn) (calls : List WriteCall) : Option PropertyMap :=
  if (since u calls).any (·.mentions u) then
    some (((since u calls).flatMap (·.gives u)).foldl SortedMap.merge
      [(Param.urn, Statement.urnValue u)])
  else none

theorem flatMap_gives_eq_nil {u : Urn} {calls : List WriteCall}
    (unmentioned : calls.any (·.mentions u) = false) : calls.flatMap (·.gives u) = [] := by
  rw [List.flatMap_eq_nil_iff]
  intro call member
  have absent := List.any_eq_false.mp unmentioned call member
  exact gives_eq_nil (Bool.not_eq_true _ ▸ absent)

/-- One call more changes the properties of an entity as it changes its node. -/
theorem described_concat (u : Urn) (calls : List WriteCall) (call : WriteCall) :
    described u (calls ++ [call]) =
      if call.removes u then none
      else if call.mentions u then
        some ((call.gives u).foldl SortedMap.merge
          ((described u calls).getD [(Param.urn, Statement.urnValue u)]))
      else described u calls := by
  unfold described since
  rw [List.rtakeWhile_concat]
  cases call.removes u with
  | true => rfl
  | false =>
      simp only [Bool.not_false, ↓reduceIte, Bool.false_eq_true, List.any_append, List.any_cons,
        List.any_nil, Bool.or_false, List.flatMap_append, List.flatMap_cons, List.flatMap_nil,
        List.append_nil, List.foldl_append]
      cases mentioned : call.mentions u with
      | false =>
          rw [gives_eq_nil mentioned, Bool.or_false]
          rfl
      | true =>
          rw [Bool.or_true]
          cases before :
              (List.rtakeWhile (fun call => !call.removes u) calls).any (·.mentions u) with
          | true => rfl
          | false =>
              rw [flatMap_gives_eq_nil before]
              rfl

end WriteCall

namespace Memory

variable {registry : Registry} {validator : Validator} {calls : List WriteCall} {m : Memory}

/-- The invariant of histories: the calls describe the node of every entity. -/
theorem History.node?_eq (history : History registry validator calls m) (u : Urn) :
    m.graph.node? (registry.node u) = WriteCall.described u calls := by
  refine history.induct
    (P := fun calls g => g.node? (registry.node u) = WriteCall.described u calls) rfl ?_
  intro calls call ss g described built
  rw [WriteCall.node?_effect, WriteCall.described_concat, described]
  rfl

/-- What a writer finds under a urn are the properties written since the entity was deleted
last, if it was written or linked since then. -/
theorem History.getNode_eq {world : World Memory}
    (history : History registry validator calls world.store) (settings : WriterSettings)
    (u : Urn) :
    ((writer registry validator settings).getNode u world).1 =
      .ok (if (WriteCall.since u calls).any (·.mentions u) then
        some (((WriteCall.since u calls).flatMap (·.gives u)).foldl SortedMap.merge
          [(Param.urn, Statement.urnValue u)])
      else none) := by
  have found : ((writer registry validator settings).getNode u world).1 =
      .ok (world.store.graph.node? (registry.node u)) := by
    change Except.ok (world.store.graph.node? (registry.node u)).toList.head? = _
    rw [Option.head?_toList]
  rw [found, history.node?_eq]
  rfl

/-- Ann, who was deleted and then known by Bob, has the age that she was given last and no
name. -/
theorem History.getNode_eq_forgotten :
    let calls : List WriteCall :=
      [.addEntities [⟨.ann, .ok ⟨[("name", .str "Ann")], rfl⟩⟩],
        .removeEntities [.bob, .ann],
        .addRelationships .allFromSource [.knows .bob .ann],
        .addEntities [⟨.ann, .ok ⟨[("age", .int 35)], rfl⟩⟩, ⟨.bob, .ok .empty⟩,
          ⟨.ann, .ok ⟨[("age", .int 36)], rfl⟩⟩]]
    ∃ world : World Memory,
      History Registry.empty .structural calls world.store ∧
      ((writer Registry.empty .structural .default).getNode .ann world).1 =
        .ok (some [("age", .int 36), ("urn", .str "urn:a:person:ann")]) := by
  intro calls
  have built : ∀ call ∈ calls, ∃ ss, call.batch Registry.empty .structural = .ok ss := by
    simp only [calls, List.forall_mem_cons]
    exact ⟨⟨_, rfl⟩, ⟨_, rfl⟩, ⟨_, rfl⟩, ⟨_, rfl⟩, by simp⟩
  obtain ⟨world, history⟩ := exists_history built
  exact ⟨world, history, History.getNode_eq history .default .ann⟩

end Memory

end RecordGraph
