import RecordGraph.Graph
import RecordGraph.SortedMap.Lemmas

/-!
# What a graph holds after each change

A node is found by its label and urn, an edge by its two ends and its label. Every change to
the nodes is described by the lookups after it.
-/

namespace RecordGraph

namespace NodeRef

theorem compare_eq_compareLex :
    (compare : NodeRef → NodeRef → Ordering) =
      compareLex (compareOn NodeRef.label) (compareOn NodeRef.urn) := rfl

instance : Std.TransOrd NodeRef :=
  inferInstanceAs
    (Std.TransCmp (compareLex (compareOn NodeRef.label) (compareOn NodeRef.urn)))

instance : Std.LawfulEqOrd NodeRef where
  compare_self {a} := by
    rw [compare_eq_compareLex]
    exact Std.ReflCmp.compare_self
  eq_of_compare {a b} same := by
    rw [compare_eq_compareLex, compareLex_eq_eq] at same
    obtain ⟨labels, urns⟩ := same
    have sameLabel : a.label = b.label := Std.LawfulEqOrd.compare_eq_iff_eq.mp labels
    have sameUrn : a.urn = b.urn := Std.LawfulEqOrd.compare_eq_iff_eq.mp urns
    cases a
    cases b
    simp_all

end NodeRef

/-- What tells an edge from the others. -/
structure EdgeKey where
  source : NodeRef
  destination : NodeRef
  relationship : String
deriving DecidableEq

def Edge.key (e : Edge) : EdgeKey := ⟨e.source, e.destination, e.relationship⟩

theorem Edge.connects_eq (e : Edge) (source destination : NodeRef) (relationship : String) :
    e.connects source destination relationship =
      decide (e.key = ⟨source, destination, relationship⟩) := by
  simp [Edge.connects, Edge.key, Bool.decide_and, Bool.and_assoc]

theorem Edge.not_touches_iff {e : Edge} {node : NodeRef} :
    (!e.touches node) = true ↔ e.source ≠ node ∧ e.destination ≠ node := by
  rw [Bool.not_eq_true', Edge.touches, Bool.or_eq_false_iff, decide_eq_false_iff_not,
    decide_eq_false_iff_not]

@[simp]
theorem Edge.key_extend (e : Edge) (extra : PropertyMap) : (e.extend extra).key = e.key := rfl

namespace Graph

theorem hasNode_eq (g : Graph) (node : NodeRef) : g.hasNode node = (g.node? node).isSome := rfl

theorem node?_mergeNode (g : Graph) (node other : NodeRef) :
    (g.mergeNode node).node? other =
      if other = node then some ((g.node? node).getD (placeholder node)) else g.node? other := by
  unfold mergeNode
  cases found : g.node? node with
  | none =>
      rw [hasNode_eq, found, if_neg (by decide)]
      exact SortedMap.get?_insert _ _ _ _
  | some m =>
      rw [hasNode_eq, found, if_pos Option.isSome_some]
      by_cases same : other = node
      · rw [if_pos same, same, found]
        rfl
      · rw [if_neg same]

theorem node?_upsertNode (g : Graph) (node other : NodeRef) (extra : PropertyMap) :
    (g.upsertNode node extra).node? other =
      if other = node then
        some (SortedMap.merge ((g.node? node).getD (placeholder node)) extra)
      else g.node? other :=
  SortedMap.get?_insert _ _ _ _

theorem node?_deleteNode (g : Graph) (node other : NodeRef) :
    (g.deleteNode node).node? other = if other = node then none else g.node? other := by
  unfold deleteNode
  cases found : g.node? node with
  | none =>
      rw [hasNode_eq, found, if_neg (by decide)]
      by_cases same : other = node
      · rw [if_pos same, same, found]
      · rw [if_neg same]
  | some m =>
      rw [hasNode_eq, found, if_pos Option.isSome_some]
      exact SortedMap.get?_erase _ _ _

theorem edges_mergeNode (g : Graph) (node : NodeRef) : (g.mergeNode node).edges = g.edges := by
  unfold mergeNode
  split <;> rfl

theorem mergeNode_of_hasNode {g : Graph} {node : NodeRef} (present : g.hasNode node = true) :
    g.mergeNode node = g :=
  if_pos present

theorem hasNode_mergeNode (g : Graph) (node other : NodeRef) :
    (g.mergeNode node).hasNode other = (decide (other = node) || g.hasNode other) := by
  rw [hasNode_eq, node?_mergeNode, hasNode_eq]
  by_cases same : other = node <;> simp [same]

end Graph

end RecordGraph
