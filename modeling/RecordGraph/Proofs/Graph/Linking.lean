import RecordGraph.Proofs.Graph.Batches

/-!
# Replacing edges

A batch of relationships first clears the edges that its policy covers and then links nodes
by edges, creating the nodes that are missing. What is cleared by a policy has the label of
the first edge, so under every other label the batch only adds.
-/

namespace RecordGraph

namespace RemovalPolicy

/-- Whether a batch whose first edge has the key `first` replaces the edge with key `k`. -/
def covers (policy : RemovalPolicy) (first k : EdgeKey) : Bool :=
  match policy with
  | none => false
  | allFromSource => k.relationship = first.relationship && k.source = first.source
  | allToDestination =>
      k.relationship = first.relationship && k.destination = first.destination
  | allFromSourceToDestination =>
      k.relationship = first.relationship && k.source = first.source
        && k.destination = first.destination

/-- Whether a batch with the given first edge may have an edge with key `k`. -/
def Admits (policy : RemovalPolicy) (first k : EdgeKey) : Prop :=
  (policy.sharesSource = true → k.source = first.source) ∧
    (policy.sharesDestination = true → k.destination = first.destination)

theorem relationship_of_covers {policy : RemovalPolicy} {first k : EdgeKey}
    (covered : policy.covers first k = true) : k.relationship = first.relationship := by
  cases policy <;> simp_all [covers]

theorem covers_of_admits {policy : RemovalPolicy} {first k : EdgeKey} (clears : policy ≠ none)
    (admits : policy.Admits first k) (same : k.relationship = first.relationship) :
    policy.covers first k = true := by
  cases policy with
  | none => exact absurd rfl clears
  | allFromSource => simp [covers, same, admits.1 rfl]
  | allToDestination => simp [covers, same, admits.2 rfl]
  | allFromSourceToDestination => simp [covers, same, admits.1 rfl, admits.2 rfl]

end RemovalPolicy

namespace Graph

/-! ## Linking -/

/-- Adds an edge, and its ends where they are missing. -/
def link (g : Graph) (e : Edge) : Graph :=
  ((g.mergeNode e.source).mergeNode e.destination).upsertEdge e.source e.destination
    e.relationship e.properties

def linkAll (g : Graph) (es : List Edge) : Graph := es.foldl link g

theorem link_eq (g : Graph) (e : Edge) :
    g.link e =
      ⟨((g.mergeNode e.source).mergeNode e.destination).nodes, Edge.put g.edges e⟩ := by
  have source : ((g.mergeNode e.source).mergeNode e.destination).hasNode e.source = true := by
    simp [hasNode_mergeNode]
  have destination :
      ((g.mergeNode e.source).mergeNode e.destination).hasNode e.destination = true := by
    simp [hasNode_mergeNode]
  unfold link
  rw [upsertEdge_of_hasNode e source destination, edges_mergeNode, edges_mergeNode]

theorem edges_linkAll (g : Graph) (es : List Edge) :
    (g.linkAll es).edges = Edge.putAll g.edges es := by
  induction es generalizing g with
  | nil => rfl
  | cons e rest ih =>
      change ((g.link e).linkAll rest).edges = Edge.putAll (Edge.put g.edges e) rest
      rw [ih, link_eq]

theorem node?_link (g : Graph) (e : Edge) (node : NodeRef) :
    (g.link e).node? node =
      (g.node? node).or (if e.touches node then some (placeholder node) else none) := by
  have nodes : (g.link e).node? node =
      ((g.mergeNode e.source).mergeNode e.destination).node? node := by
    rw [link_eq]
    rfl
  rw [nodes, node?_mergeNode, node?_mergeNode, node?_mergeNode]
  unfold Edge.touches
  by_cases atSource : node = e.source
  · subst atSource
    by_cases loop : e.source = e.destination
    · cases g.node? e.source <;> simp [← loop]
    · cases g.node? e.source <;> simp [loop]
  · by_cases atDestination : node = e.destination
    · subst atDestination
      cases g.node? e.destination <;> simp [atSource]
    · simp [atSource, atDestination, Ne.symm atSource, Ne.symm atDestination]

/-- Nodes that were there keep their properties, and the missing ends are created. -/
theorem node?_linkAll (g : Graph) (es : List Edge) (node : NodeRef) :
    (g.linkAll es).node? node =
      (g.node? node).or (if es.any (·.touches node) then some (placeholder node) else none) := by
  induction es generalizing g with
  | nil => simp [linkAll]
  | cons e rest ih =>
      change ((g.link e).linkAll rest).node? node = _
      rw [ih, node?_link, List.any_cons]
      cases g.node? node <;> cases e.touches node <;> simp

theorem Consistent.link {g : Graph} (consistent : g.Consistent) (e : Edge) :
    (g.link e).Consistent :=
  ((consistent.mergeNode e.source).mergeNode e.destination).upsertEdge _ _ _ _

theorem Consistent.linkAll {g : Graph} (consistent : g.Consistent) (es : List Edge) :
    (g.linkAll es).Consistent := by
  induction es generalizing g with
  | nil => exact consistent
  | cons e rest ih => exact ih (consistent.link e)

theorem Each.linkAll {P : PropertyMap → Prop} (closed : Closed P) {g : Graph} (each : g.Each P)
    {es : List Edge} (new : ∀ e ∈ es, P e.properties) : (g.linkAll es).Each P where
  nodes := by
    intro node m found
    rw [node?_linkAll] at found
    cases before : g.node? node with
    | some old =>
        rw [before, Option.some_or] at found
        exact Option.some.inj found ▸ each.nodes node old before
    | none =>
        rw [before, Option.none_or] at found
        split at found
        · cases found
          exact closed.placeholder node
        · cases found
  edges := by
    rw [edges_linkAll]
    exact Edge.forall_putAll closed.merge each.edges new

/-- Where all ends are there, no node is created. -/
theorem nodes_linkAll_of_hasNode {g : Graph} {es : List Edge}
    (present : ∀ e ∈ es, g.hasNode e.source = true ∧ g.hasNode e.destination = true) :
    (g.linkAll es).nodes = g.nodes := by
  induction es generalizing g with
  | nil => rfl
  | cons e rest ih =>
      obtain ⟨source, destination⟩ := present e List.mem_cons_self
      have first : (g.link e).nodes = g.nodes := by
        rw [link_eq, mergeNode_of_hasNode source, mergeNode_of_hasNode destination]
      have kept (node : NodeRef) : (g.link e).hasNode node = g.hasNode node := by
        unfold hasNode
        rw [first]
      change ((g.link e).linkAll rest).nodes = g.nodes
      rw [← first]
      refine ih ?_
      intro x later
      rw [kept, kept]
      exact present x (List.mem_cons_of_mem _ later)

/-! ## Replacing -/

/-- Clears the edges that a policy covers. -/
def clear (g : Graph) (policy : RemovalPolicy) (first : EdgeKey) : Graph :=
  { g with edges := g.edges.filter fun e => !policy.covers first e.key }

/-- Without a policy nothing is cleared. -/
theorem clear_none (g : Graph) (first : EdgeKey) : g.clear .none first = g := by
  have all : g.edges.filter (fun e => !RemovalPolicy.covers .none first e.key) = g.edges :=
    List.filter_eq_self.mpr fun _ _ => rfl
  unfold clear
  rw [all]

/-- Links nodes by edges after clearing what the policy covers. -/
def replace (g : Graph) (policy : RemovalPolicy) : List Edge → Graph
  | [] => g
  | first :: rest => (g.clear policy first.key).linkAll (first :: rest)

theorem node?_replace (g : Graph) (policy : RemovalPolicy) (es : List Edge) (node : NodeRef) :
    (g.replace policy es).node? node =
      (g.node? node).or (if es.any (·.touches node) then some (placeholder node) else none) := by
  cases es with
  | nil => exact Option.or_none.symm
  | cons first rest => exact node?_linkAll _ _ _

theorem Consistent.replace {g : Graph} (consistent : g.Consistent) (policy : RemovalPolicy)
    (es : List Edge) : (g.replace policy es).Consistent := by
  cases es with
  | nil => exact consistent
  | cons first rest => exact (consistent.filterEdges _).linkAll _

theorem Each.replace {P : PropertyMap → Prop} (closed : Closed P) {g : Graph} (each : g.Each P)
    (policy : RemovalPolicy) {es : List Edge} (new : ∀ e ∈ es, P e.properties) :
    (g.replace policy es).Each P := by
  cases es with
  | nil => exact each
  | cons first rest => exact (each.filterEdges _).linkAll closed new

/-- Graphs that differ at most in how edges of different labels are mingled. -/
structure Alike (g h : Graph) : Prop where
  nodes : g.nodes = h.nodes
  edges : ∀ label,
    g.edges.filter (·.relationship = label) = h.edges.filter (·.relationship = label)

theorem Alike.refl (g : Graph) : Alike g g := ⟨rfl, fun _ => rfl⟩

theorem Alike.trans {g h k : Graph} (first : Alike g h) (second : Alike h k) : Alike g k :=
  ⟨first.nodes.trans second.nodes, fun label => (first.edges label).trans (second.edges label)⟩

theorem Alike.perm {g h : Graph} (alike : Alike g h) : g.edges.Perm h.edges := by
  classical
  refine List.perm_iff_count.mpr ?_
  intro e
  have counted (k : Graph) :
      (k.edges.filter (·.relationship = e.relationship)).count e = k.edges.count e :=
    List.count_filter (decide_eq_true rfl)
  rw [← counted g, alike.edges, counted h]

/-- Alike graphs give the same answers to all reads. -/
theorem Alike.read {g h : Graph} (alike : Alike g h) (s : Statement) : g.read s = h.read s := by
  have node (n : NodeRef) : g.node? n = h.node? n := by
    unfold node?
    rw [alike.nodes]
  -- a read of edges asks for one label, so it looks at one of the equal parts only
  have within (p : Edge → Bool) (label : String)
      (labelled : ∀ e, p e = true → e.relationship = label) :
      g.edges.filter p = h.edges.filter p := by
    have narrowed (k : Graph) :
        (k.edges.filter (·.relationship = label)).filter p = k.edges.filter p := by
      rw [List.filter_filter]
      refine List.filter_congr ?_
      intro e _
      cases holds : p e with
      | false => rfl
      | true => simp [labelled e holds]
    rw [← narrowed g, alike.edges, narrowed h]
  unfold Graph.read
  split
  · simp only [node]
  · rename_i sourceLabel destinationLabel relationship _
    have same (source destination : NodeRef) :
        g.edges.filter (·.connects source destination relationship) =
          h.edges.filter (·.connects source destination relationship) := by
      refine within _ relationship ?_
      intro e connected
      simp only [Edge.connects, Bool.and_eq_true, decide_eq_true_eq] at connected
      exact connected.2
    simp only [same]
  · rename_i sourceLabel relationship _
    have same (source : NodeRef) :
        g.edges.filter (fun e => e.source = source && e.relationship = relationship) =
          h.edges.filter (fun e => e.source = source && e.relationship = relationship) := by
      refine within _ relationship ?_
      intro e leaves
      simp only [Bool.and_eq_true, decide_eq_true_eq] at leaves
      exact leaves.2
    simp only [same]
  · rfl

/-- What is under a label after a batch: the edges that the batch does not clear, and its own. -/
theorem filter_replace (g : Graph) (policy : RemovalPolicy) (first : Edge) (rest : List Edge)
    (label : String) :
    (g.replace policy (first :: rest)).edges.filter (·.relationship = label) =
      Edge.putAll
        (g.edges.filter fun e =>
          decide (e.relationship = label) && !policy.covers first.key e.key)
        ((first :: rest).filter (·.relationship = label)) := by
  have within := Edge.filter_putAll (fun k => decide (k.relationship = label))
    (g.clear policy first.key).edges (first :: rest)
  rw [← edges_linkAll] at within
  refine within.trans ?_
  unfold clear
  rw [List.filter_filter]
  rfl

/-- A batch leaves no end missing, so the next one creates no node. -/
theorem nodes_replace_again (g : Graph) (policy : RemovalPolicy) (first : Edge)
    (rest : List Edge) :
    ((g.replace policy (first :: rest)).replace policy (first :: rest)).nodes =
      (g.replace policy (first :: rest)).nodes := by
  have present {node : NodeRef} (touched : (first :: rest).any (·.touches node) = true) :
      (g.replace policy (first :: rest)).hasNode node = true := by
    unfold replace
    rw [hasNode_eq, node?_linkAll, touched]
    simp
  refine nodes_linkAll_of_hasNode ?_
  intro e member
  constructor
  · exact present (List.any_eq_true.mpr ⟨e, member, by simp [Edge.touches]⟩)
  · exact present (List.any_eq_true.mpr ⟨e, member, by simp [Edge.touches]⟩)

/-- Under a label whose edges of the batch are all covered, the next batch finds what the
first one found. -/
theorem filter_replace_again_of_covered (g : Graph) (policy : RemovalPolicy) {first : Edge}
    {rest : List Edge} {label : String}
    (covered : ∀ e ∈ first :: rest, e.relationship = label →
      policy.covers first.key e.key = true) :
    ((g.replace policy (first :: rest)).replace policy (first :: rest)).edges.filter
        (·.relationship = label) =
      (g.replace policy (first :: rest)).edges.filter (·.relationship = label) := by
  have nothing : (first :: rest).filter (fun e =>
      decide (e.relationship = label) && !policy.covers first.key e.key) = [] := by
    refine List.filter_eq_nil_iff.mpr ?_
    intro e member holds
    rw [Bool.and_eq_true, decide_eq_true_eq, Bool.not_eq_true'] at holds
    rw [covered e member holds.1] at holds
    cases holds.2
  have left : (g.replace policy (first :: rest)).edges.filter (fun e =>
      decide (e.relationship = label) && !policy.covers first.key e.key) =
      g.edges.filter fun e =>
        decide (e.relationship = label) && !policy.covers first.key e.key := by
    have kept := Edge.filter_putAll
      (fun k => decide (k.relationship = label) && !policy.covers first.key k)
      (g.clear policy first.key).edges (first :: rest)
    rw [← edges_linkAll] at kept
    refine kept.trans ?_
    change Edge.putAll _ ((first :: rest).filter fun e =>
      decide (e.relationship = label) && !policy.covers first.key e.key) = _
    rw [nothing]
    unfold clear Edge.putAll
    rw [List.foldl_nil, List.filter_filter]
    refine List.filter_congr ?_
    intro e _
    rw [Bool.and_assoc, Bool.and_self]
    rfl
  rw [filter_replace (g.replace policy (first :: rest)), left, ← filter_replace]

/-- Under a label of which nothing is ever covered, a batch only adds. -/
theorem filter_replace_again_of_kept {g : Graph} (consistent : g.Consistent)
    (ordered : g.Ordered) {policy : RemovalPolicy} {first : Edge} {rest : List Edge}
    (sorted : ∀ e ∈ first :: rest, SortedMap.Sorted e.properties) {label : String}
    (kept : ∀ e : Edge, e.relationship = label → policy.covers first.key e.key = false) :
    ((g.replace policy (first :: rest)).replace policy (first :: rest)).edges.filter
        (·.relationship = label) =
      (g.replace policy (first :: rest)).edges.filter (·.relationship = label) := by
  have all (e : Edge) : (decide (e.relationship = label) && !policy.covers first.key e.key) =
      decide (e.relationship = label) := by
    by_cases under : e.relationship = label
    · rw [kept e under, Bool.not_false, Bool.and_true]
    · rw [decide_eq_false under, Bool.false_and]
  have once := filter_replace g policy first rest label
  have twice := filter_replace (g.replace policy (first :: rest)) policy first rest label
  simp only [all] at once twice
  rw [twice, once]
  refine Edge.putAll_again ?_ ?_ ?_
  · exact consistent.keys.sublist (List.filter_sublist.map Edge.key)
  · intro e member
    exact ordered.edges e (List.mem_filter.mp member).1
  · intro e member
    exact sorted e (List.mem_filter.mp member).1

/-- Under one label a batch clears the same edges that it adds, or it clears none. So the
second of two equal batches finds what the first has left and leaves it so. -/
theorem replace_again {g : Graph} (consistent : g.Consistent) (ordered : g.Ordered)
    (policy : RemovalPolicy) {es : List Edge}
    (sorted : ∀ e ∈ es, SortedMap.Sorted e.properties)
    (shared : ∀ first ∈ es.head?, ∀ e ∈ es, policy.Admits first.key e.key) :
    Alike ((g.replace policy es).replace policy es) (g.replace policy es) := by
  cases es with
  | nil => exact Alike.refl g
  | cons first rest =>
      refine ⟨nodes_replace_again g policy first rest, ?_⟩
      intro label
      by_cases clears : policy ≠ .none ∧ label = first.relationship
      · refine filter_replace_again_of_covered g policy ?_
        intro e member under
        exact RemovalPolicy.covers_of_admits clears.1 (shared first rfl e member)
          (under.trans clears.2)
      · refine filter_replace_again_of_kept consistent ordered sorted ?_
        intro e under
        cases covered : policy.covers first.key e.key with
        | false => rfl
        | true =>
            refine absurd ⟨?_, ?_⟩ clears
            · rintro rfl
              cases covered
            · exact under.symm.trans (RemovalPolicy.relationship_of_covers covered)

/-! ## Writing nodes and replacing edges -/

theorem edges_replace_upsertAll (g : Graph) (written : List (NodeRef × PropertyMap))
    (policy : RemovalPolicy) (es : List Edge) :
    ((g.upsertAll written).replace policy es).edges = (g.replace policy es).edges := by
  cases es with
  | nil => exact edges_upsertAll g written
  | cons first rest =>
      unfold replace
      rw [edges_linkAll, edges_linkAll]
      unfold clear
      rw [edges_upsertAll]

/-- A missing end is created as a written node is, so it makes no difference which of the two
comes first. -/
theorem replace_upsertAll {g : Graph} (consistent : g.Consistent)
    (written : List (NodeRef × PropertyMap)) (policy : RemovalPolicy) (es : List Edge) :
    (g.upsertAll written).replace policy es = (g.replace policy es).upsertAll written := by
  have nodes : ((g.upsertAll written).replace policy es).nodes =
      ((g.replace policy es).upsertAll written).nodes := by
    refine SortedMap.ext_get? ((consistent.upsertAll written).replace policy es).sorted
      ((consistent.replace policy es).upsertAll written).sorted ?_
    intro node
    change ((g.upsertAll written).replace policy es).node? node =
      ((g.replace policy es).upsertAll written).node? node
    rw [node?_replace, node?_upsertAll, node?_upsertAll, node?_replace]
    by_cases here : node ∈ written.map Prod.fst
    · have base : ((g.node? node).or
          (if es.any (·.touches node) then some (placeholder node) else none)).getD
            (placeholder node) = (g.node? node).getD (placeholder node) := by
        cases g.node? node <;> cases es.any (·.touches node) <;> rfl
      rw [if_pos here, if_pos here, base, Option.some_or]
    · rw [if_neg here, if_neg here]
  have edges : ((g.upsertAll written).replace policy es).edges =
      ((g.replace policy es).upsertAll written).edges := by
    rw [edges_replace_upsertAll, edges_upsertAll]
  rw [Graph.mk.injEq]
  exact ⟨nodes, edges⟩

end Graph

end RecordGraph
