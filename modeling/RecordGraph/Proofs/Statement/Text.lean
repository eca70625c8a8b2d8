import RecordGraph.Proofs.Statement.Meaning
import RecordGraph.Proofs.Statement.Words

/-!
# What the text of a statement determines

A graph does not tell apart what the text of an operation does not tell apart, and every
statement built for records has the text of its operation, with identifiers for names. So
statements with the same text and parameters mean the same.
-/

namespace RecordGraph

namespace Graph

theorem deleteEdges_nil (g : Graph) (source destination : NodeRef) (relationship : String) :
    g.deleteEdges source destination relationship [] =
      g.removeEdges (some source) (some destination) relationship := by
  have same (e : Edge) : (e.connects source destination relationship && e.satisfies []) =
      e.within (some source) (some destination) relationship := by
    simp only [Edge.connects, Edge.within, Edge.satisfies, List.all_nil, Bool.and_true,
      Option.all_some]
    rw [Bool.and_comm, ← Bool.and_assoc]
  unfold deleteEdges removeEdges
  simp only [same]

/-- A graph does not tell apart what a text does not tell apart. -/
theorem apply_said (g : Graph) (op : Operation) (text : String) (params : PropertyMap) :
    g.apply ⟨op, text, params⟩ = g.apply ⟨op.said, text, params⟩ := by
  cases op with
  | deleteEdge sourceLabel destinationLabel relationship filter =>
      cases filter with
      | cons field rest => rfl
      | nil =>
          have same (x y : Except StatementError NodeRef) :
              (do
                let source ← x
                let destination ← y
                return g.deleteEdges source destination relationship []) =
              (do
                let source ← x.map some
                let destination ← y.map some
                return g.removeEdges source destination relationship) := by
            cases x with
            | error e => rfl
            | ok source =>
                cases y with
                | error e => rfl
                | ok destination =>
                    exact congrArg Except.ok (deleteEdges_nil g source destination relationship)
          exact same _ _
  | _ => rfl

end Graph

/-! ## Statements for records -/

theorem Registry.isValid_labelFor (registry : Registry) (u : Urn) :
    Identifier.isValid (registry.labelFor u) = true := by
  unfold Registry.labelFor Registry.label?
  cases found : registry.entries.find? (·.entityType = u.entityType) with
  | none => decide
  | some d =>
      have acceptable := registry.acceptable d (List.mem_of_find?_eq_some found)
      simp only [Descriptor.isAcceptable, Bool.and_eq_true] at acceptable
      exact acceptable.1.2

/-- The statements that are built for records. -/
inductive Statement.Built : Statement → Prop
  | upsertNode {registry : Registry} {e : Entity} {s : Statement}
      (built : Statement.upsertNode registry e = .ok s) : Built s
  | deleteNode (registry : Registry) (u : Urn) : Built (Statement.deleteNode registry u)
  | mergeNode (registry : Registry) (u : Urn) : Built (Statement.mergeNode registry u)
  | upsertEdge {registry : Registry} {r : Relationship} {s : Statement}
      (built : Statement.upsertEdge registry r = .ok s) : Built s
  | deleteEdge {registry : Registry} {r : Relationship} {s : Statement}
      (built : Statement.deleteEdge registry r = .ok s) : Built s
  | removal {registry : Registry} {policy : RemovalPolicy} {rs : List Relationship}
      {s : Statement} (built : Statement.removal registry policy rs = .ok (some s)) : Built s
  | addRelationships {registry : Registry} {policy : RemovalPolicy} {rs : List Relationship}
      {ss : List Statement} {s : Statement}
      (built : Statement.addRelationships registry policy rs = .ok ss) (member : s ∈ ss) : Built s
  | matchNodes (registry : Registry) (u : Urn) : Built (Statement.matchNodes registry u)
  | matchEdges {registry : Registry} {r : Relationship} {s : Statement}
      (built : Statement.matchEdges registry r = .ok s) : Built s
  | matchEdgesFromSource {registry : Registry} {source : Urn} {label : String} {s : Statement}
      (built : Statement.matchEdgesFromSource registry source label = .ok s) : Built s

namespace Statement

/-- A statement with the text of its operation, all of whose names are identifiers. -/
structure Proper (s : Statement) : Prop where
  text : s.text = s.operation.text
  names : ∀ name ∈ s.operation.template.names, Identifier.isValid name = true

theorem proper_upsertEdge {registry : Registry} {r : Relationship} {s : Statement}
    (built : upsertEdge registry r = .ok s) : s.Proper := by
  obtain ⟨label, checked, more⟩ := bind_eq_ok_iff.mp built
  obtain ⟨valid, rfl⟩ := eq_of_checkedLabel checked
  obtain ⟨properties, -, done⟩ := bind_eq_ok_iff.mp more
  cases done
  refine ⟨rfl, ?_⟩
  change ∀ name ∈ [registry.labelFor r.source, registry.labelFor r.destination, r.label], _
  simp [valid, Registry.isValid_labelFor]

theorem proper_mergeNode (registry : Registry) (u : Urn) : (mergeNode registry u).Proper := by
  refine ⟨rfl, ?_⟩
  change ∀ name ∈ [registry.labelFor u], _
  simp [Registry.isValid_labelFor]

theorem proper_removal {registry : Registry} {policy : RemovalPolicy} {rs : List Relationship}
    {s : Statement} (built : removal registry policy rs = .ok (some s)) : s.Proper := by
  cases rs with
  | nil => cases policy <;> cases built
  | cons first rest =>
      by_cases clears : policy = .none
      · subst clears
        cases built
      · obtain ⟨valid, -, -, same⟩ := removal_cases clears built
        cases same
        refine ⟨rfl, ?_⟩
        cases policy with
        | none => exact absurd rfl clears
        | allFromSource =>
            change ∀ name ∈ [registry.labelFor first.source, first.label], _
            simp [valid, Registry.isValid_labelFor]
        | allToDestination =>
            change ∀ name ∈ [first.label, registry.labelFor first.destination], _
            simp [valid, Registry.isValid_labelFor]
        | allFromSourceToDestination =>
            change ∀ name ∈ [registry.labelFor first.source, first.label,
              registry.labelFor first.destination], _
            simp [valid, Registry.isValid_labelFor]

theorem proper_upsertEdges {registry : Registry} {rs : List Relationship} {ss : List Statement}
    (built : upsertEdges registry rs = .ok ss) : ∀ s ∈ ss, s.Proper := by
  refine (recordByRecord_upsertEdges registry).induct (P := fun _ ss => ∀ s ∈ ss, s.Proper)
    (List.forall_mem_nil _) ?_ built
  intro r rest edge others builtEdge proper s member
  simp only [List.mem_cons] at member
  rcases member with rfl | rfl | rfl | later
  · exact proper_mergeNode registry r.source
  · exact proper_mergeNode registry r.destination
  · exact proper_upsertEdge builtEdge
  · exact proper s later

theorem proper_addRelationships {registry : Registry} {policy : RemovalPolicy}
    {rs : List Relationship} {ss : List Statement}
    (built : addRelationships registry policy rs = .ok ss) : ∀ s ∈ ss, s.Proper := by
  obtain ⟨cleared, builtCleared, more⟩ := bind_eq_ok_iff.mp built
  obtain ⟨written, builtWritten, done⟩ := bind_eq_ok_iff.mp more
  cases done
  intro s member
  rcases List.mem_append.mp member with inCleared | inWritten
  · obtain rfl := Option.mem_toList.mp inCleared
    exact proper_removal builtCleared
  · exact proper_upsertEdges builtWritten s inWritten

theorem proper_deleteEdge {registry : Registry} {r : Relationship} {s : Statement}
    (built : deleteEdge registry r = .ok s) : s.Proper := by
  obtain ⟨valid, fields, rfl⟩ := deleteEdge_cases built
  refine ⟨rfl, ?_⟩
  change ∀ name ∈ (Operation.deleteEdge _ _ _ _).template.names, _
  rw [Operation.names_deleteEdge]
  intro name member
  simp only [List.mem_cons, List.mem_append, List.not_mem_nil, or_false, List.mem_map] at member
  rcases member with rfl | rfl | ⟨⟨field, v⟩, carries, rfl⟩ | rfl
  · exact registry.isValid_labelFor r.source
  · exact valid
  · exact fields field (mem_valuesOf.mp carries).1
  · exact registry.isValid_labelFor r.destination

theorem Built.proper {s : Statement} (built : s.Built) : s.Proper := by
  cases built with
  | upsertNode built =>
      obtain ⟨properties, -, done⟩ := bind_eq_ok_iff.mp built
      cases done
      refine ⟨rfl, ?_⟩
      change ∀ name ∈ [Registry.labelFor _ _], _
      simp [Registry.isValid_labelFor]
  | deleteNode registry u =>
      refine ⟨rfl, ?_⟩
      change ∀ name ∈ [registry.labelFor u], _
      simp [Registry.isValid_labelFor]
  | mergeNode registry u => exact proper_mergeNode registry u
  | upsertEdge built => exact proper_upsertEdge built
  | deleteEdge built => exact proper_deleteEdge built
  | removal built => exact proper_removal built
  | addRelationships built member => exact proper_addRelationships built s member
  | matchNodes registry u =>
      refine ⟨rfl, ?_⟩
      change ∀ name ∈ [registry.labelFor u], _
      simp [Registry.isValid_labelFor]
  | matchEdges built =>
      obtain ⟨label, checked, done⟩ := bind_eq_ok_iff.mp built
      obtain ⟨valid, rfl⟩ := eq_of_checkedLabel checked
      cases done
      refine ⟨rfl, ?_⟩
      change ∀ name ∈ [Registry.labelFor _ _, _, Registry.labelFor _ _], _
      simp [valid, Registry.isValid_labelFor]
  | matchEdgesFromSource built =>
      obtain ⟨label, checked, done⟩ := bind_eq_ok_iff.mp built
      obtain ⟨valid, rfl⟩ := eq_of_checkedLabel checked
      cases done
      refine ⟨rfl, ?_⟩
      change ∀ name ∈ [Registry.labelFor _ _, _], _
      simp [valid, Registry.isValid_labelFor]

/-- The text and the parameters of a statement determine what it does. -/
theorem Built.determined {s t : Statement} (left : s.Built) (right : t.Built)
    (text : s.text = t.text) (params : s.params = t.params) :
    s.operation.isRead = t.operation.isRead ∧
      (∀ g : Graph, g.apply s = g.apply t) ∧
      (s.operation.isRead = true → ∀ g : Graph, g.read s = g.read t) := by
  have same : s.operation.said = t.operation.said := by
    refine Operation.said_eq_of_text left.proper.names right.proper.names ?_
    rw [← left.proper.text, text, right.proper.text]
  have reads : s.operation.isRead = t.operation.isRead := by
    rw [← Operation.isRead_said, same, Operation.isRead_said]
  obtain ⟨op, written, bound⟩ := s
  obtain ⟨op', written', bound'⟩ := t
  obtain rfl : written = written' := text
  obtain rfl : bound = bound' := params
  refine ⟨reads, ?_, ?_⟩
  · intro g
    rw [Graph.apply_said g op, same, ← Graph.apply_said g op']
  · intro isRead g
    have here : op = op' := by
      have there : op'.isRead = true := reads ▸ isRead
      calc op
          _ = op.said := (Operation.said_of_isRead isRead).symm
          _ = op'.said := same
          _ = op' := Operation.said_of_isRead there
    rw [here]

/-- A removal between two nodes has the text of a deletion without a filter. -/
theorem Built.determined_removal :
    ∃ s t,
      Statement.removal Registry.empty .allFromSourceToDestination [.knows .ann .bob] =
        .ok (some s) ∧
      Statement.deleteEdge Registry.empty (.knows .ann .bob) = .ok t ∧ s.text = t.text ∧
      s.params = t.params ∧ s.operation ≠ t.operation ∧ ∀ g : Graph, g.apply s = g.apply t := by
  obtain ⟨s, t, removes, deletes, text, params, differ⟩ : ∃ s t,
      Statement.removal Registry.empty .allFromSourceToDestination [.knows .ann .bob] =
          .ok (some s) ∧
        Statement.deleteEdge Registry.empty (.knows .ann .bob) = .ok t ∧ s.text = t.text ∧
        s.params = t.params ∧ s.operation ≠ t.operation :=
    ⟨_, _, rfl, rfl, rfl, rfl, by decide⟩
  obtain ⟨-, same, -⟩ := Built.determined (.removal removes) (.deleteEdge deletes) text params
  exact ⟨s, t, removes, deletes, text, params, differ, same⟩

end Statement

end RecordGraph
