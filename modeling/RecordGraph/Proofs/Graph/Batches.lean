import RecordGraph.Proofs.Graph.Consistency

/-!
# What batches of changes do to a graph

The four kinds of batches as folds over the graph, each described by what is found
afterwards: writing nodes, deleting nodes, linking nodes by edges and unlinking them.
-/

namespace RecordGraph

namespace Graph

/-- A graph in which the properties of all nodes and edges are sorted. -/
structure Ordered (g : Graph) : Prop where
  nodes : ∀ node m, g.node? node = some m → SortedMap.Sorted m
  edges : ∀ e ∈ g.edges, SortedMap.Sorted e.properties

theorem sorted_placeholder (node : NodeRef) : SortedMap.Sorted (placeholder node) :=
  List.pairwise_singleton _ _

theorem Ordered.empty : Graph.empty.Ordered where
  nodes := by
    intro node m found
    cases found
  edges := by
    intro e member
    cases member

/-- The properties that a node has, or would be created with. -/
theorem Ordered.present {g : Graph} (ordered : g.Ordered) (node : NodeRef) :
    SortedMap.Sorted ((g.node? node).getD (placeholder node)) := by
  cases found : g.node? node with
  | none => exact sorted_placeholder node
  | some m => exact ordered.nodes node m found

/-! ## Graphs of one kind of properties -/

/-- A graph in which the properties of all nodes and edges are of one kind. -/
structure Each (P : PropertyMap → Prop) (g : Graph) : Prop where
  nodes : ∀ node m, g.node? node = some m → P m
  edges : ∀ e ∈ g.edges, P e.properties

/-- A kind of properties that new nodes have and that merging keeps. -/
structure Closed (P : PropertyMap → Prop) : Prop where
  placeholder : ∀ node, P (placeholder node)
  merge : ∀ {base extra}, P base → P extra → P (SortedMap.merge base extra)

theorem ordered_iff_each {g : Graph} : g.Ordered ↔ g.Each SortedMap.Sorted := by
  constructor
  · rintro ⟨nodes, edges⟩
    exact ⟨nodes, edges⟩
  · rintro ⟨nodes, edges⟩
    exact ⟨nodes, edges⟩

theorem closed_sorted : Closed SortedMap.Sorted where
  placeholder := sorted_placeholder
  merge := fun sorted _ => sorted.merge _

section Each

variable {P : PropertyMap → Prop}

theorem Each.empty : Graph.empty.Each P where
  nodes := by
    intro node m found
    cases found
  edges := by
    intro e member
    cases member

theorem Closed.foldl_merge (closed : Closed P) {base : PropertyMap} {maps : List PropertyMap}
    (old : P base) (new : ∀ m ∈ maps, P m) : P (maps.foldl SortedMap.merge base) := by
  induction maps generalizing base with
  | nil => exact old
  | cons m rest ih =>
      have first : P (SortedMap.merge base m) := closed.merge old (new m List.mem_cons_self)
      exact ih first fun other later => new other (List.mem_cons_of_mem _ later)

theorem Each.filterEdges {g : Graph} (each : g.Each P) (p : Edge → Bool) :
    ({ g with edges := g.edges.filter p } : Graph).Each P where
  nodes := each.nodes
  edges := fun e member => each.edges e (List.mem_filter.mp member).1

end Each

/-! ## Writing nodes -/

def upsertAll (g : Graph) (written : List (NodeRef × PropertyMap)) : Graph :=
  written.foldl (fun g w => g.upsertNode w.1 w.2) g

/-- The properties written to a node, one map after another. -/
def writtenTo (written : List (NodeRef × PropertyMap)) (node : NodeRef) : List PropertyMap :=
  (written.filter (·.1 = node)).map Prod.snd

theorem writtenTo_eq_nil {written : List (NodeRef × PropertyMap)} {node : NodeRef}
    (absent : node ∉ written.map Prod.fst) : writtenTo written node = [] := by
  simp only [writtenTo, List.map_eq_nil_iff, List.filter_eq_nil_iff, decide_eq_true_eq]
  intro w member same
  exact absent (same ▸ List.mem_map_of_mem member)

theorem edges_upsertAll (g : Graph) (written : List (NodeRef × PropertyMap)) :
    (g.upsertAll written).edges = g.edges := by
  induction written generalizing g with
  | nil => rfl
  | cons w rest ih => exact ih (g.upsertNode w.1 w.2)

theorem Consistent.upsertAll {g : Graph} (consistent : g.Consistent)
    (written : List (NodeRef × PropertyMap)) : (g.upsertAll written).Consistent := by
  induction written generalizing g with
  | nil => exact consistent
  | cons w rest ih => exact ih (consistent.upsertNode w.1 w.2)

theorem node?_upsertAll (g : Graph) (written : List (NodeRef × PropertyMap)) (node : NodeRef) :
    (g.upsertAll written).node? node =
      if node ∈ written.map Prod.fst then
        some ((writtenTo written node).foldl SortedMap.merge
          ((g.node? node).getD (placeholder node)))
      else g.node? node := by
  induction written generalizing g with
  | nil => rfl
  | cons w rest ih =>
      change ((g.upsertNode w.1 w.2).upsertAll rest).node? node = _
      rw [ih, node?_upsertNode]
      by_cases same : node = w.1
      · subst same
        have first : writtenTo (w :: rest) w.1 = w.2 :: writtenTo rest w.1 := by
          simp [writtenTo]
        rw [if_pos rfl, first, List.foldl_cons, List.map_cons, if_pos List.mem_cons_self]
        split
        · rfl
        · rename_i absent
          rw [writtenTo_eq_nil absent]
          rfl
      · have skipped : writtenTo (w :: rest) node = writtenTo rest node := by
          simp [writtenTo, Ne.symm same]
        rw [if_neg same, skipped, List.map_cons]
        by_cases later : node ∈ rest.map Prod.fst
        · rw [if_pos later, if_pos (List.mem_cons_of_mem _ later)]
        · rw [if_neg later, if_neg (List.not_mem_cons_of_ne_of_not_mem same later)]

theorem mem_of_mem_writtenTo {written : List (NodeRef × PropertyMap)} {node : NodeRef}
    {m : PropertyMap} (member : m ∈ writtenTo written node) : (node, m) ∈ written := by
  obtain ⟨w, kept, rfl⟩ := List.mem_map.mp member
  obtain ⟨here, same⟩ := List.mem_filter.mp kept
  exact of_decide_eq_true same ▸ here

theorem Each.upsertAll {P : PropertyMap → Prop} (closed : Closed P) {g : Graph}
    (each : g.Each P) {written : List (NodeRef × PropertyMap)} (new : ∀ w ∈ written, P w.2) :
    (g.upsertAll written).Each P where
  nodes := by
    intro node m found
    rw [node?_upsertAll] at found
    split at found
    · cases found
      refine closed.foldl_merge ?_ fun x member => new _ (mem_of_mem_writtenTo member)
      cases before : g.node? node with
      | none => exact closed.placeholder node
      | some old => exact each.nodes node old before
    · exact each.nodes node m found
  edges := by
    rw [edges_upsertAll]
    exact each.edges

theorem upsertAll_again {g : Graph} (consistent : g.Consistent) (ordered : g.Ordered)
    (written : List (NodeRef × PropertyMap)) :
    (g.upsertAll written).upsertAll written = g.upsertAll written := by
  have once := consistent.upsertAll written
  have nodes : ((g.upsertAll written).upsertAll written).nodes = (g.upsertAll written).nodes := by
    refine SortedMap.ext_get? (once.upsertAll written).sorted once.sorted ?_
    intro node
    change ((g.upsertAll written).upsertAll written).node? node = (g.upsertAll written).node? node
    rw [node?_upsertAll (g.upsertAll written), node?_upsertAll g]
    split
    · rw [Option.getD_some, SortedMap.foldl_merge_again (ordered.present node)]
    · rfl
  have edges : ((g.upsertAll written).upsertAll written).edges = (g.upsertAll written).edges :=
    edges_upsertAll _ written
  rw [Graph.mk.injEq]
  exact ⟨nodes, edges⟩

/-! ## Deleting nodes -/

def deleteAll (g : Graph) (deleted : List NodeRef) : Graph := deleted.foldl deleteNode g

theorem node?_deleteAll (g : Graph) (deleted : List NodeRef) (node : NodeRef) :
    (g.deleteAll deleted).node? node = if node ∈ deleted then none else g.node? node := by
  induction deleted generalizing g with
  | nil => rfl
  | cons first rest ih =>
      change ((g.deleteNode first).deleteAll rest).node? node = _
      rw [ih, node?_deleteNode]
      by_cases later : node ∈ rest
      · rw [if_pos later, if_pos (List.mem_cons_of_mem _ later)]
      · rw [if_neg later]
        by_cases same : node = first <;> simp [same, later]

theorem Each.deleteNode {P : PropertyMap → Prop} {g : Graph} (each : g.Each P)
    (node : NodeRef) : (g.deleteNode node).Each P where
  nodes := by
    intro other m found
    rw [node?_deleteNode] at found
    split at found
    · cases found
    · exact each.nodes other m found
  edges := by
    unfold Graph.deleteNode
    split
    · exact (each.filterEdges _).edges
    · exact each.edges

theorem Each.deleteAll {P : PropertyMap → Prop} {g : Graph} (each : g.Each P)
    (deleted : List NodeRef) : (g.deleteAll deleted).Each P := by
  induction deleted generalizing g with
  | nil => exact each
  | cons node rest ih => exact ih (each.deleteNode node)

/-- Nodes that are not there cannot be deleted. -/
theorem deleteAll_of_missing {g : Graph} {deleted : List NodeRef}
    (missing : ∀ node ∈ deleted, g.hasNode node = false) : g.deleteAll deleted = g := by
  induction deleted with
  | nil => rfl
  | cons node rest ih =>
      have first : g.deleteNode node = g := by
        unfold Graph.deleteNode
        rw [missing node List.mem_cons_self, if_neg Bool.false_ne_true]
      change (g.deleteNode node).deleteAll rest = g
      rw [first]
      exact ih fun other later => missing other (List.mem_cons_of_mem _ later)

theorem deleteAll_again (g : Graph) (deleted : List NodeRef) :
    (g.deleteAll deleted).deleteAll deleted = g.deleteAll deleted := by
  refine deleteAll_of_missing ?_
  intro node member
  rw [hasNode_eq, node?_deleteAll, if_pos member]
  rfl

theorem hasNode_of_mem {g : Graph} {entry : NodeRef × PropertyMap} (stored : entry ∈ g.nodes) :
    g.hasNode entry.1 = true :=
  SortedMap.mem_keys_iff.mp (List.mem_map_of_mem stored)

/-- A node is deleted with all its edges. One that is not there has none. -/
theorem deleteNode_eq {g : Graph} (consistent : g.Consistent) (node : NodeRef) :
    g.deleteNode node =
      ⟨g.nodes.filter fun entry => entry.1 ≠ node, g.edges.filter (!·.touches node)⟩ := by
  unfold deleteNode
  cases present : g.hasNode node with
  | true =>
      have erased : SortedMap.erase g.nodes node =
          g.nodes.filter fun entry => entry.1 ≠ node := by
        refine List.filter_congr ?_
        intro entry stored
        rw [Bool.eq_iff_iff, Bool.not_eq_true', Bool.eq_false_iff, ne_eq, SortedMap.isEq_compare,
          decide_eq_true_eq, ne_comm]
      rw [if_pos rfl, erased]
  | false =>
      have ne {other : NodeRef} (here : g.hasNode other = true) : other ≠ node := by
        rintro rfl
        cases present.symm.trans here
      have nodes : (g.nodes.filter fun entry => entry.1 ≠ node) = g.nodes := by
        refine List.filter_eq_self.mpr ?_
        intro entry stored
        exact decide_eq_true (ne (hasNode_of_mem stored))
      have edges : g.edges.filter (!·.touches node) = g.edges := by
        refine List.filter_eq_self.mpr ?_
        intro e member
        obtain ⟨source, destination⟩ := consistent.ends e member
        exact Edge.not_touches_iff.mpr ⟨ne source, ne destination⟩
      rw [if_neg Bool.false_ne_true, nodes, edges]

theorem deleteAll_eq {g : Graph} (consistent : g.Consistent) (deleted : List NodeRef) :
    g.deleteAll deleted =
      ⟨g.nodes.filter fun entry => entry.1 ∉ deleted,
        g.edges.filter fun e => e.source ∉ deleted ∧ e.destination ∉ deleted⟩ := by
  induction deleted generalizing g with
  | nil =>
      have nodes : (g.nodes.filter fun entry => entry.1 ∉ []) = g.nodes :=
        List.filter_eq_self.mpr fun _ _ => rfl
      have edges : (g.edges.filter fun e => e.source ∉ [] ∧ e.destination ∉ []) = g.edges :=
        List.filter_eq_self.mpr fun _ _ => rfl
      rw [nodes, edges]
      rfl
  | cons first rest ih =>
      change (g.deleteNode first).deleteAll rest = _
      rw [ih (consistent.deleteNode first), deleteNode_eq consistent, Graph.mk.injEq,
        List.filter_filter, List.filter_filter]
      constructor
      · refine List.filter_congr ?_
        intro entry stored
        simp only [List.mem_cons, not_or, Bool.decide_and, Bool.and_comm]
      · refine List.filter_congr ?_
        intro e member
        rw [Bool.eq_iff_iff, Bool.and_eq_true, Edge.not_touches_iff, decide_eq_true_eq,
          decide_eq_true_eq]
        simp only [List.mem_cons, not_or]
        grind

/-- What is deleted depends on the nodes alone that are there. -/
theorem deleteAll_congr {g : Graph} (consistent : g.Consistent) {deleted others : List NodeRef}
    (same : ∀ node, g.hasNode node = true → (node ∈ deleted ↔ node ∈ others)) :
    g.deleteAll deleted = g.deleteAll others := by
  rw [deleteAll_eq consistent, deleteAll_eq consistent, Graph.mk.injEq]
  constructor
  · refine List.filter_congr ?_
    intro entry stored
    rw [decide_eq_decide, same _ (hasNode_of_mem stored)]
  · refine List.filter_congr ?_
    intro e member
    obtain ⟨source, destination⟩ := consistent.ends e member
    rw [decide_eq_decide, same _ source, same _ destination]

/-! ## Unlinking -/

/-- Edges of a key whose fields have certain values. -/
structure Selection where
  key : EdgeKey
  criteria : List (String × PropertyValue)

/-- Whether an edge is among the selected ones. -/
def Selection.covers (c : Selection) (e : Edge) : Bool :=
  e.key = c.key && e.satisfies c.criteria

def unlink (g : Graph) (c : Selection) : Graph :=
  g.deleteEdges c.key.source c.key.destination c.key.relationship c.criteria

def unlinkAll (g : Graph) (selections : List Selection) : Graph := selections.foldl unlink g

theorem unlink_eq (g : Graph) (c : Selection) :
    g.unlink c = ⟨g.nodes, g.edges.filter fun e => !c.covers e⟩ := by
  simp only [unlink, deleteEdges, Edge.connects_eq, Selection.covers]

theorem unlinkAll_eq (g : Graph) (selections : List Selection) :
    g.unlinkAll selections =
      ⟨g.nodes, g.edges.filter fun e => selections.all fun c => !c.covers e⟩ := by
  induction selections generalizing g with
  | nil =>
      have all : (g.edges.filter fun _ => true) = g.edges :=
        List.filter_eq_self.mpr fun _ _ => rfl
      simp only [List.all_nil, all]
      rfl
  | cons c rest ih =>
      change (g.unlink c).unlinkAll rest = _
      rw [ih, unlink_eq]
      simp only [List.filter_filter, List.all_cons, Bool.and_comm]

theorem Each.unlinkAll {P : PropertyMap → Prop} {g : Graph} (each : g.Each P)
    (selections : List Selection) : (g.unlinkAll selections).Each P := by
  rw [unlinkAll_eq]
  exact each.filterEdges _

theorem unlinkAll_again (g : Graph) (selections : List Selection) :
    (g.unlinkAll selections).unlinkAll selections = g.unlinkAll selections := by
  rw [unlinkAll_eq (g.unlinkAll selections), unlinkAll_eq g, List.filter_filter]
  simp only [Bool.and_self]

end Graph

end RecordGraph
