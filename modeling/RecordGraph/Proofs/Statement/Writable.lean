import RecordGraph.Proofs.Statement.Meaning
import RecordGraph.Proofs.Validation

/-!
# Statements for writable records

Every statement for a writable record is built, and so is the removal for relationships that
share the ends which the policy asks for. Whether a statement can be carried out does not
depend on the graph.
-/

namespace RecordGraph

/-- Whether relationships share the ends that a policy asks for. -/
structure RemovalPolicy.SharedBy (policy : RemovalPolicy) (rs : List Relationship) : Prop where
  source : policy.sharesSource = true → ∀ r ∈ rs, ∀ r' ∈ rs, r.source = r'.source
  destination : policy.sharesDestination = true →
    ∀ r ∈ rs, ∀ r' ∈ rs, r.destination = r'.destination

namespace Statement

variable (registry : Registry)

/-! ## Building -/

theorem propertiesOf_eq_ok {properties : Except PropertyError Properties}
    (computed : ∃ p, properties = .ok p) : propertiesOf properties = .ok (carried properties) := by
  obtain ⟨p, rfl⟩ := computed
  rfl

theorem checkedLabel_eq_ok {label : String} (valid : Identifier.isValid label = true) :
    checkedLabel label = .ok label :=
  if_pos valid

theorem filterValues_eq_ok {label : String} {m : PropertyMap} {fields : List String}
    (valid : ∀ field ∈ fields, Identifier.isValid field = true) :
    filterValues label m fields = .ok (valuesOf m fields) := by
  have built : ∃ found, filterValues label m fields = .ok found := by
    induction fields with
    | nil => exact ⟨[], rfl⟩
    | cons field rest ih =>
        obtain ⟨others, doneOthers⟩ := ih fun other later =>
          valid other (List.mem_cons_of_mem _ later)
        unfold filterValues
        rw [if_pos (valid field List.mem_cons_self), doneOthers]
        exact ⟨_, rfl⟩
  obtain ⟨found, done⟩ := built
  rw [done, (eq_valuesOf done).2]

theorem upsertNode_of_writable {e : Entity} (writable : e.Writable) :
    ∃ s, upsertNode registry e = .ok s := by
  unfold upsertNode
  rw [propertiesOf_eq_ok writable.properties]
  exact ⟨_, rfl⟩

theorem upsertEdge_of_writable {r : Relationship} (writable : r.Writable) :
    ∃ s, upsertEdge registry r = .ok s := by
  unfold upsertEdge
  rw [checkedLabel_eq_ok writable.label, propertiesOf_eq_ok writable.properties]
  exact ⟨_, rfl⟩

theorem deleteEdge_of_writable {r : Relationship} (writable : r.Writable) :
    ∃ s, deleteEdge registry r = .ok s := by
  have valid : ∀ field ∈ declaredFields r, Identifier.isValid field = true :=
    fun field member => writable.fields field (mem_declaredFields.mp member)
  unfold deleteEdge
  rw [checkedLabel_eq_ok writable.label, propertiesOf_eq_ok writable.properties]
  change ∃ s, (filterValues r.label (carried r.properties) (declaredFields r) >>= _) = .ok s
  rw [filterValues_eq_ok valid]
  exact ⟨_, rfl⟩

theorem upsertNodes_of_writable {es : List Entity} (writable : ∀ e ∈ es, e.Writable) :
    ∃ ss, upsertNodes registry es = .ok ss := by
  have each : ∀ e ∈ es, ∃ s, upsertNode registry e = .ok s :=
    fun e member => upsertNode_of_writable registry (writable e member)
  exact (recordByRecord_upsertNodes registry).exists_of_forall each

theorem upsertEdges_of_writable {rs : List Relationship} (writable : ∀ r ∈ rs, r.Writable) :
    ∃ ss, upsertEdges registry rs = .ok ss := by
  have each : ∀ r ∈ rs, ∃ s, upsertEdge registry r = .ok s :=
    fun r member => upsertEdge_of_writable registry (writable r member)
  exact (recordByRecord_upsertEdges registry).exists_of_forall each

theorem deleteEdges_of_writable {rs : List Relationship} (writable : ∀ r ∈ rs, r.Writable) :
    ∃ ss, deleteEdges registry rs = .ok ss := by
  have each : ∀ r ∈ rs, ∃ s, deleteEdge registry r = .ok s :=
    fun r member => deleteEdge_of_writable registry (writable r member)
  exact (recordByRecord_deleteEdges registry).exists_of_forall each

theorem checkShared_eq_ok {field : EdgeEnd} {expected : Urn} {rs : List Relationship}
    (shared : ∀ r ∈ rs, field.urn r = expected) : checkShared field expected rs = .ok () := by
  have none : rs.find? (fun r => field.urn r ≠ expected) = none := by
    simpa using shared
  rw [checkShared, none]

theorem removal_of_shared {policy : RemovalPolicy} {rs : List Relationship}
    (labels : ∀ r ∈ rs, Identifier.isValid r.label = true) (shared : policy.SharedBy rs) :
    ∃ cleared, removal registry policy rs = .ok cleared := by
  cases rs with
  | nil => cases policy <;> exact ⟨none, rfl⟩
  | cons first rest =>
      have label := checkedLabel_eq_ok (labels first List.mem_cons_self)
      have source (shares : policy.sharesSource = true) :
          checkShared .source first.source (first :: rest) = .ok () :=
        checkShared_eq_ok fun r member => shared.source shares r member first List.mem_cons_self
      have destination (shares : policy.sharesDestination = true) :
          checkShared .destination first.destination (first :: rest) = .ok () :=
        checkShared_eq_ok fun r member =>
          shared.destination shares r member first List.mem_cons_self
      unfold removal
      cases policy with
      | none => exact ⟨none, rfl⟩
      | allFromSource =>
          simp only [label, source rfl]
          exact ⟨_, rfl⟩
      | allToDestination =>
          simp only [label, destination rfl]
          exact ⟨_, rfl⟩
      | allFromSourceToDestination =>
          simp only [label, source rfl, destination rfl]
          exact ⟨_, rfl⟩

theorem addRelationships_of_writable {policy : RemovalPolicy} {rs : List Relationship}
    (writable : ∀ r ∈ rs, r.Writable) (shared : policy.SharedBy rs) :
    ∃ ss, addRelationships registry policy rs = .ok ss := by
  obtain ⟨cleared, builtCleared⟩ :=
    removal_of_shared registry (fun r member => (writable r member).label) shared
  obtain ⟨written, builtWritten⟩ := upsertEdges_of_writable registry writable
  unfold addRelationships
  rw [builtCleared, builtWritten]
  exact ⟨_, rfl⟩

end Statement

namespace Graph

/-! ## Carrying out -/

/-- A statement that can be carried out on one graph can be carried out on every other. -/
theorem apply_of_apply {g g' : Graph} {s : Statement} (done : g.apply s = .ok g') (h : Graph) :
    ∃ h', h.apply s = .ok h' := by
  unfold apply at done ⊢
  split at done
  · obtain ⟨node, atNode, done⟩ := bind_eq_ok_iff.mp done
    obtain ⟨extra, atExtra, -⟩ := bind_eq_ok_iff.mp done
    rw [atNode, atExtra]
    exact ⟨_, rfl⟩
  · obtain ⟨node, atNode, -⟩ := bind_eq_ok_iff.mp done
    rw [atNode]
    exact ⟨_, rfl⟩
  · obtain ⟨node, atNode, -⟩ := bind_eq_ok_iff.mp done
    rw [atNode]
    exact ⟨_, rfl⟩
  · obtain ⟨source, atSource, done⟩ := bind_eq_ok_iff.mp done
    obtain ⟨destination, atDestination, done⟩ := bind_eq_ok_iff.mp done
    obtain ⟨extra, atExtra, -⟩ := bind_eq_ok_iff.mp done
    rw [atSource, atDestination, atExtra]
    exact ⟨_, rfl⟩
  · obtain ⟨source, atSource, done⟩ := bind_eq_ok_iff.mp done
    obtain ⟨destination, atDestination, done⟩ := bind_eq_ok_iff.mp done
    obtain ⟨criteria, atCriteria, -⟩ := bind_eq_ok_iff.mp done
    rw [atSource, atDestination, atCriteria]
    exact ⟨_, rfl⟩
  · obtain ⟨source, atSource, done⟩ := bind_eq_ok_iff.mp done
    obtain ⟨destination, atDestination, -⟩ := bind_eq_ok_iff.mp done
    rw [atSource, atDestination]
    exact ⟨_, rfl⟩
  all_goals exact ⟨h, rfl⟩

/-- So can all statements of a batch that was carried out once. -/
theorem apply_of_applyAll {g g' : Graph} {ss : List Statement} (done : g.applyAll ss = .ok g') :
    ∀ s ∈ ss, ∀ h : Graph, ∃ h', h.apply s = .ok h' := by
  induction ss generalizing g with
  | nil => simp
  | cons s rest ih =>
      obtain ⟨next, first, later⟩ := bind_eq_ok_iff.mp done
      intro t member h
      rcases List.mem_cons.mp member with rfl | inRest
      · exact apply_of_apply first h
      · exact ih later t inRest h

end Graph

end RecordGraph
