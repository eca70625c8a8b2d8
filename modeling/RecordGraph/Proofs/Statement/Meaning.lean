import RecordGraph.Proofs.Graph.Linking
import RecordGraph.Proofs.Statement.Building
import RecordGraph.Proofs.Urn.Text

/-!
# What the statements for records do

Every statement built for a record finds its parameters and makes one change to the graph,
and every batch that is built makes one of the four changes to many nodes or edges.
-/

namespace RecordGraph

namespace Registry

variable (registry : Registry)

/-- The node of a urn. -/
def node (u : Urn) : NodeRef := ⟨registry.labelFor u, u.text⟩

/-- Different urns have different nodes. -/
theorem node_inj {u v : Urn} : registry.node u = registry.node v ↔ u = v := by
  constructor
  · intro same
    exact Urn.text_injective (congrArg NodeRef.urn same)
  · rintro rfl
    rfl

/-- The node of an entity with the properties that are written to it. -/
def written (e : Entity) : NodeRef × PropertyMap :=
  (registry.node e.urn, SortedMap.erase (Statement.carried e.properties) Param.urn)

/-- The edge of a relationship. -/
def edge (r : Relationship) : Edge :=
  ⟨registry.node r.source, registry.node r.destination, r.label, Statement.carried r.properties⟩

/-- The edges that a relationship removes. -/
def selection (r : Relationship) : Graph.Selection where
  key := (registry.edge r).key
  criteria := Statement.valuesOf (Statement.carried r.properties) (Statement.declaredFields r)

end Registry

namespace Graph

theorem applyAll_append (g : Graph) (ss ts : List Statement) :
    g.applyAll (ss ++ ts) = g.applyAll ss >>= fun next => next.applyAll ts := by
  induction ss generalizing g with
  | nil => rfl
  | cons s rest ih =>
      rw [List.cons_append, applyAll, applyAll, bind_assoc]
      simp only [ih]

variable {registry : Registry}

/-! ## Nodes -/

theorem apply_upsertNode {e : Entity} {s : Statement}
    (built : Statement.upsertNode registry e = .ok s) (g : Graph) :
    g.apply s = .ok (g.upsertNode (registry.written e).1 (registry.written e).2) := by
  obtain ⟨properties, found, done⟩ := bind_eq_ok_iff.mp built
  cases done
  rw [Statement.eq_carried found]
  rfl

theorem apply_deleteNode (u : Urn) (g : Graph) :
    g.apply (Statement.deleteNode registry u) = .ok (g.deleteNode (registry.node u)) := rfl

theorem apply_mergeNode (u : Urn) (g : Graph) :
    g.apply (Statement.mergeNode registry u) = .ok (g.mergeNode (registry.node u)) := rfl

theorem applyAll_upsertNodes {es : List Entity} {ss : List Statement}
    (built : Statement.upsertNodes registry es = .ok ss) (g : Graph) :
    g.applyAll ss = .ok (g.upsertAll (es.map registry.written)) := by
  refine (Statement.recordByRecord_upsertNodes registry).induct
    (P := fun es ss => ∀ g : Graph, g.applyAll ss = .ok (g.upsertAll (es.map registry.written)))
    (fun _ => rfl) ?_ built g
  intro e rest node others builtNode ih g
  rw [applyAll, apply_upsertNode builtNode]
  exact ih _

theorem applyAll_deleteNodes (us : List Urn) (g : Graph) :
    g.applyAll (us.map (Statement.deleteNode registry)) =
      .ok (g.deleteAll (us.map registry.node)) := by
  induction us generalizing g with
  | nil => rfl
  | cons u rest ih =>
      rw [List.map_cons, applyAll, apply_deleteNode]
      exact ih _

/-! ## Edges -/

theorem apply_upsertEdge {r : Relationship} {s : Statement}
    (built : Statement.upsertEdge registry r = .ok s) (g : Graph) :
    g.apply s =
      .ok (g.upsertEdge (registry.edge r).source (registry.edge r).destination
        (registry.edge r).relationship (registry.edge r).properties) := by
  obtain ⟨label, checked, more⟩ := bind_eq_ok_iff.mp built
  obtain ⟨properties, found, done⟩ := bind_eq_ok_iff.mp more
  cases done
  rw [(Statement.eq_of_checkedLabel checked).2, Statement.eq_carried found]
  rfl

theorem applyAll_upsertEdges {rs : List Relationship} {ss : List Statement}
    (built : Statement.upsertEdges registry rs = .ok ss) (g : Graph) :
    g.applyAll ss = .ok (g.linkAll (rs.map registry.edge)) := by
  refine (Statement.recordByRecord_upsertEdges registry).induct
    (P := fun rs ss => ∀ g : Graph, g.applyAll ss = .ok (g.linkAll (rs.map registry.edge)))
    (fun _ => rfl) ?_ built g
  intro r rest edge others builtEdge ih g
  rw [applyAll, apply_mergeNode]
  change ((g.mergeNode (registry.node r.source)).applyAll _) = _
  rw [applyAll, apply_mergeNode]
  change (((g.mergeNode (registry.node r.source)).mergeNode
    (registry.node r.destination)).applyAll _) = _
  rw [applyAll, apply_upsertEdge builtEdge]
  exact ih _

/-! ## Clearing -/

theorem within_eq_covers {policy : RemovalPolicy} (clears : policy ≠ .none) (first e : Edge) :
    e.within (if policy.sharesSource then some first.source else none)
        (if policy.sharesDestination then some first.destination else none) first.relationship =
      policy.covers first.key e.key := by
  cases policy with
  | none => exact absurd rfl clears
  | _ =>
      simp [Edge.within, RemovalPolicy.covers, RemovalPolicy.sharesSource,
        RemovalPolicy.sharesDestination, Edge.key]
      rfl

/-- The statement of a removal deletes edges with the ends that the relationships share. -/
theorem apply_removeEdges (policy : RemovalPolicy) (first : Relationship) (g : Graph) :
    g.apply (Statement.ofOperation
        (.removeEdges policy
          (if policy.sharesSource then some (registry.labelFor first.source) else none)
          (if policy.sharesDestination then some (registry.labelFor first.destination) else none)
          first.label)
        (SortedMap.merge
          (if policy.sharesSource then Statement.nodeParams Param.source first.source else [])
          (if policy.sharesDestination then
            Statement.nodeParams Param.destination first.destination else []))) =
      .ok (g.removeEdges
        (if policy.sharesSource then some (registry.node first.source) else none)
        (if policy.sharesDestination then some (registry.node first.destination) else none)
        first.label) := by
  have found (s : Statement) (shares : Bool) (u : Urn) (name : String)
      (bound : shares = true →
        SortedMap.get? s.params name = some (Statement.urnValue u)) :
      s.nodeParam? (if shares then some (registry.labelFor u) else none) name =
        .ok (if shares then some (registry.node u) else none) := by
    cases shares with
    | false => rfl
    | true =>
        change (s.nodeParam (registry.labelFor u) name).map some = _
        rw [Statement.nodeParam_of_get? (bound rfl)]
        rfl
  unfold apply
  dsimp only [Statement.ofOperation]
  rw [found _ policy.sharesSource first.source Param.source,
    found _ policy.sharesDestination first.destination Param.destination]
  · rfl
  · intro shares
    rw [SortedMap.get?_merge, shares, if_pos rfl, Statement.get?_nodeParams, if_pos rfl]
    rfl
  · intro shares
    rw [SortedMap.get?_merge, shares, if_pos rfl, Statement.get?_nodeParams, if_pos rfl]
    cases policy.sharesDestination with
    | false => rfl
    | true =>
      rw [if_pos rfl, Statement.get?_nodeParams, if_neg Param.source_ne_destination]
      rfl

/-- A removal that is built clears what the policy covers. -/
theorem applyAll_removal {policy : RemovalPolicy} {first : Relationship}
    {rest : List Relationship} {cleared : Option Statement}
    (built : Statement.removal registry policy (first :: rest) = .ok cleared) (g : Graph) :
    g.applyAll cleared.toList = .ok (g.clear policy (registry.edge first).key) := by
  by_cases clears : policy = .none
  · subst clears
    cases built
    rw [clear_none]
    rfl
  · obtain ⟨-, -, -, rfl⟩ := Statement.removal_cases clears built
    have covered (e : Edge) := within_eq_covers clears (registry.edge first) e
    change (do let next ← g.apply _; next.applyAll []) = _
    rw [apply_removeEdges]
    change Except.ok (g.removeEdges _ _ _) = _
    unfold removeEdges clear
    simp only [← covered]
    rfl

/-- A policy that clears edges admits all relationships of a batch that is built. -/
theorem admits_of_removal {policy : RemovalPolicy} {first : Relationship}
    {rest : List Relationship} {cleared : Option Statement}
    (built : Statement.removal registry policy (first :: rest) = .ok cleared) :
    ∀ r ∈ first :: rest, policy.Admits (registry.edge first).key (registry.edge r).key := by
  intro r member
  by_cases clears : policy = .none
  · subst clears
    constructor
    · intro impossible
      cases impossible
    · intro impossible
      cases impossible
  · obtain ⟨-, sources, destinations, -⟩ := Statement.removal_cases clears built
    constructor
    · intro shares
      exact congrArg registry.node (sources shares r member)
    · intro shares
      exact congrArg registry.node (destinations shares r member)

/-- A batch of relationships that is built replaces edges. -/
theorem applyAll_addRelationships {policy : RemovalPolicy} {rs : List Relationship}
    {ss : List Statement} (built : Statement.addRelationships registry policy rs = .ok ss)
    (g : Graph) : g.applyAll ss = .ok (g.replace policy (rs.map registry.edge)) := by
  obtain ⟨cleared, builtCleared, more⟩ := bind_eq_ok_iff.mp built
  obtain ⟨written, builtWritten, done⟩ := bind_eq_ok_iff.mp more
  cases done
  cases rs with
  | nil =>
      have nothing : cleared = none := by
        cases policy <;> cases builtCleared <;> rfl
      subst nothing
      cases builtWritten
      rfl
  | cons first rest =>
      rw [applyAll_append, applyAll_removal builtCleared]
      exact applyAll_upsertEdges builtWritten _

theorem admits_of_addRelationships {policy : RemovalPolicy} {rs : List Relationship}
    {ss : List Statement} (built : Statement.addRelationships registry policy rs = .ok ss) :
    ∀ first ∈ (rs.map registry.edge).head?, ∀ e ∈ rs.map registry.edge,
      policy.Admits first.key e.key := by
  obtain ⟨cleared, builtCleared, -⟩ := bind_eq_ok_iff.mp built
  cases rs with
  | nil =>
      intro first impossible
      cases impossible
  | cons r rest =>
      intro first atHead e member
      cases atHead
      obtain ⟨r', member', rfl⟩ := List.mem_map.mp member
      exact admits_of_removal builtCleared r' member'

theorem sorted_edge (r : Relationship) : SortedMap.Sorted (registry.edge r).properties :=
  Statement.sorted_carried r.properties

/-! ## Removing -/

theorem apply_deleteEdge {r : Relationship} {s : Statement}
    (built : Statement.deleteEdge registry r = .ok s) (g : Graph) :
    g.apply s = .ok (g.unlink (registry.selection r)) := by
  obtain ⟨-, -, rfl⟩ := Statement.deleteEdge_cases built
  unfold apply
  dsimp only [Statement.ofOperation]
  rw [@Statement.nodeParam_of_get? _ _ r.source, @Statement.nodeParam_of_get? _ _ r.destination,
    Statement.criteria_of_get?]
  · rfl
  · rintro ⟨field, v⟩ member
    obtain ⟨declared, found⟩ := Statement.mem_valuesOf.mp member
    rw [SortedMap.get?_merge, Statement.get?_filterParams, Statement.get?_valuesOf,
      if_pos declared, found]
    rfl
  · rw [SortedMap.get?_merge, Statement.get?_filterParams_of_ne _ Param.filter_ne_destination]
    exact Statement.get?_endParams_destination r
  · rw [SortedMap.get?_merge, Statement.get?_filterParams_of_ne _ Param.filter_ne_source]
    exact Statement.get?_endParams_source r

theorem applyAll_deleteEdges {rs : List Relationship} {ss : List Statement}
    (built : Statement.deleteEdges registry rs = .ok ss) (g : Graph) :
    g.applyAll ss = .ok (g.unlinkAll (rs.map registry.selection)) := by
  refine (Statement.recordByRecord_deleteEdges registry).induct
    (P := fun rs ss => ∀ g : Graph, g.applyAll ss = .ok (g.unlinkAll (rs.map registry.selection)))
    (fun _ => rfl) ?_ built g
  intro r rest edge others builtEdge ih g
  rw [applyAll, apply_deleteEdge builtEdge]
  exact ih _

end Graph

/-! ## Acquaintances -/

namespace Relationship

/-- One person knows another, and no more is said of it. -/
def knows (u v : Urn) : Relationship := ⟨"KNOWS", u, v, .ok .empty, []⟩

/-- One person likes another, and no more is said of it. -/
def likes (u v : Urn) : Relationship := ⟨"LIKES", u, v, .ok .empty, []⟩

end Relationship

end RecordGraph
