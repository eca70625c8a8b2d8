import RecordGraph.Proofs.Graph.Edges
import RecordGraph.Proofs.Success

/-!
# Consistency of graphs

In a consistent graph both ends of every edge are nodes and no two edges have the same key.
Every statement keeps a graph consistent, whatever its parameters are.
-/

namespace RecordGraph.Graph

structure Consistent (g : Graph) : Prop where
  sorted : SortedMap.Sorted g.nodes
  ends : ∀ e ∈ g.edges, g.hasNode e.source = true ∧ g.hasNode e.destination = true
  keys : (g.edges.map Edge.key).Nodup

/-- What one statement may do to a graph. -/
inductive Change (g : Graph) : Graph → Prop
  | upsertNode (node : NodeRef) (extra : PropertyMap) : Change g (g.upsertNode node extra)
  | mergeNode (node : NodeRef) : Change g (g.mergeNode node)
  | deleteNode (node : NodeRef) : Change g (g.deleteNode node)
  | upsertEdge (source destination : NodeRef) (relationship : String) (extra : PropertyMap) :
      Change g (g.upsertEdge source destination relationship extra)
  | deleteEdges (source destination : NodeRef) (relationship : String)
      (criteria : List (String × PropertyValue)) :
      Change g (g.deleteEdges source destination relationship criteria)
  | removeEdges (source destination : Option NodeRef) (relationship : String) :
      Change g (g.removeEdges source destination relationship)
  | nothing : Change g g

theorem change_of_apply {g g' : Graph} {s : Statement} (done : g.apply s = .ok g') :
    Change g g' := by
  unfold apply at done
  split at done
  · obtain ⟨node, -, done⟩ := bind_eq_ok_iff.mp done
    obtain ⟨extra, -, done⟩ := bind_eq_ok_iff.mp done
    cases done
    exact .upsertNode node extra
  · obtain ⟨node, -, done⟩ := bind_eq_ok_iff.mp done
    cases done
    exact .mergeNode node
  · obtain ⟨node, -, done⟩ := bind_eq_ok_iff.mp done
    cases done
    exact .deleteNode node
  · obtain ⟨source, -, done⟩ := bind_eq_ok_iff.mp done
    obtain ⟨destination, -, done⟩ := bind_eq_ok_iff.mp done
    obtain ⟨extra, -, done⟩ := bind_eq_ok_iff.mp done
    cases done
    exact .upsertEdge source destination _ extra
  · obtain ⟨source, -, done⟩ := bind_eq_ok_iff.mp done
    obtain ⟨destination, -, done⟩ := bind_eq_ok_iff.mp done
    obtain ⟨criteria, -, done⟩ := bind_eq_ok_iff.mp done
    cases done
    exact .deleteEdges source destination _ criteria
  · obtain ⟨source, -, done⟩ := bind_eq_ok_iff.mp done
    obtain ⟨destination, -, done⟩ := bind_eq_ok_iff.mp done
    cases done
    exact .removeEdges source destination _
  all_goals
    cases done
    exact .nothing

namespace Consistent

theorem empty : Graph.empty.Consistent where
  sorted := List.Pairwise.nil
  ends := by
    intro e member
    cases member
  keys := List.nodup_nil

/-- Nodes may be added and changed as long as none is lost. -/
theorem withNodes {g : Graph} (consistent : g.Consistent) {nodes : SortedMap NodeRef PropertyMap}
    (sorted : SortedMap.Sorted nodes)
    (kept : ∀ node, g.hasNode node = true → (Graph.mk nodes g.edges).hasNode node = true) :
    (Graph.mk nodes g.edges).Consistent where
  sorted := sorted
  ends := by
    intro e member
    obtain ⟨source, destination⟩ := consistent.ends e member
    exact ⟨kept _ source, kept _ destination⟩
  keys := consistent.keys

theorem upsertNode {g : Graph} (consistent : g.Consistent) (node : NodeRef)
    (extra : PropertyMap) : (g.upsertNode node extra).Consistent := by
  refine consistent.withNodes (consistent.sorted.insert _ _) ?_
  intro other present
  change (g.upsertNode node extra).hasNode other = true
  rw [hasNode_eq, node?_upsertNode]
  split
  · rfl
  · exact present

theorem mergeNode {g : Graph} (consistent : g.Consistent) (node : NodeRef) :
    (g.mergeNode node).Consistent := by
  cases present : g.hasNode node with
  | true => exact (mergeNode_of_hasNode present).symm ▸ consistent
  | false =>
      have created : g.mergeNode node = g.upsertNode node [] := by
        have missing : g.node? node = none := by simpa [hasNode_eq] using present
        simp [Graph.mergeNode, Graph.upsertNode, present, missing, SortedMap.merge_nil]
      exact created ▸ consistent.upsertNode node []

/-- Edges may be taken away. -/
theorem filterEdges {g : Graph} (consistent : g.Consistent) (p : Edge → Bool) :
    ({ g with edges := g.edges.filter p } : Graph).Consistent where
  sorted := consistent.sorted
  ends := fun e member => consistent.ends e (List.mem_filter.mp member).1
  keys := consistent.keys.sublist (List.filter_sublist.map Edge.key)

theorem deleteNode {g : Graph} (consistent : g.Consistent) (node : NodeRef) :
    (g.deleteNode node).Consistent := by
  have kept {other : NodeRef} (differs : other ≠ node) (present : g.hasNode other = true) :
      (g.deleteNode node).hasNode other = true := by
    rw [hasNode_eq, node?_deleteNode, if_neg differs]
    exact present
  unfold Graph.deleteNode at kept ⊢
  split at kept
  · rename_i present
    rw [if_pos present]
    refine ⟨consistent.sorted.erase node, ?_, (consistent.filterEdges _).keys⟩
    intro e member
    obtain ⟨old, apart⟩ := List.mem_filter.mp member
    obtain ⟨source, destination⟩ := consistent.ends e old
    obtain ⟨notSource, notDestination⟩ := Edge.not_touches_iff.mp apart
    exact ⟨kept notSource source, kept notDestination destination⟩
  · rename_i absent
    rw [if_neg absent]
    exact consistent

theorem upsertEdge {g : Graph} (consistent : g.Consistent) (source destination : NodeRef)
    (relationship : String) (extra : PropertyMap) :
    (g.upsertEdge source destination relationship extra).Consistent := by
  by_cases present : g.hasNode source = true ∧ g.hasNode destination = true
  · rw [upsertEdge_of_hasNode ⟨source, destination, relationship, extra⟩ present.1 present.2]
    refine ⟨consistent.sorted, ?_, Edge.nodup_keys_put consistent.keys _⟩
    intro e member
    rcases Edge.mem_keys_put.mp (List.mem_map_of_mem member) with old | new
    · obtain ⟨e', member', same⟩ := List.mem_map.mp old
      obtain ⟨left, right⟩ := consistent.ends e' member'
      rw [Edge.key, Edge.key, EdgeKey.mk.injEq] at same
      exact ⟨same.1 ▸ left, same.2.1 ▸ right⟩
    · rw [Edge.key, Edge.key, EdgeKey.mk.injEq] at new
      exact ⟨new.1 ▸ present.1, new.2.1 ▸ present.2⟩
  · rw [upsertEdge_of_missing present]
    exact consistent

theorem change {g g' : Graph} (consistent : g.Consistent) (change : Change g g') :
    g'.Consistent := by
  cases change with
  | upsertNode node extra => exact consistent.upsertNode node extra
  | mergeNode node => exact consistent.mergeNode node
  | deleteNode node => exact consistent.deleteNode node
  | upsertEdge source destination relationship extra =>
      exact consistent.upsertEdge source destination relationship extra
  | deleteEdges source destination relationship criteria => exact consistent.filterEdges _
  | removeEdges source destination relationship => exact consistent.filterEdges _
  | nothing => exact consistent

theorem applyAll {g g' : Graph} {ss : List Statement} (consistent : g.Consistent)
    (done : g.applyAll ss = .ok g') : g'.Consistent := by
  induction ss generalizing g with
  | nil =>
      cases done
      exact consistent
  | cons s rest ih =>
      obtain ⟨next, first, later⟩ := bind_eq_ok_iff.mp done
      exact ih (consistent.change (change_of_apply first)) later

end Consistent

end RecordGraph.Graph
