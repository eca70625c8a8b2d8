import Mathlib.Tactic.ByContra
import RecordGraph.Proofs.Writer.Acceptance

/-!
# Refused calls

A call whose records are at fault is refused before the store or a listener is touched. A
record that the validator rejects comes before all else, and of several such records the first
one counts. Relationships that are accepted are refused just if they differ in an end that the
policy wants shared.
-/

namespace RecordGraph

/-- Whether two relationships differ in the urn at an end. -/
def EdgeEnd.Differs (field : EdgeEnd) (rs : List Relationship) : Prop :=
  ∃ r ∈ rs, ∃ r' ∈ rs, field.urn r ≠ field.urn r'

/-- The urn of the first relationship at an end, and the first urn at that end which is another
one. -/
structure EdgeEnd.Deviates (field : EdgeEnd) (rs : List Relationship) (expected found : Urn) :
    Prop where
  first : ∃ r rest, rs = r :: rest ∧ field.urn r = expected
  earliest : ∃ earlier r later, rs = earlier ++ r :: later ∧
    (∀ other ∈ earlier, field.urn other = expected) ∧ field.urn r = found
  differ : found ≠ expected

/-- The end in which a policy finds relationships to differ, with two urns at it. Both ends may
differ that the policy wants shared, and then it is the source. -/
inductive RemovalPolicy.Refuses (policy : RemovalPolicy) (rs : List Relationship) :
    EdgeEnd → Urn → Urn → Prop
  | source {expected found : Urn} (shares : policy.sharesSource = true)
      (deviates : EdgeEnd.source.Deviates rs expected found) :
      Refuses policy rs .source expected found
  | destination {expected found : Urn} (shares : policy.sharesDestination = true)
      (agree : policy.sharesSource = true → ¬ EdgeEnd.source.Differs rs)
      (deviates : EdgeEnd.destination.Deviates rs expected found) :
      Refuses policy rs .destination expected found

/-- Whether an error tells of a fault in the records of a call. -/
inductive GraphError.OfRecords : GraphError → Prop
  | schema (v : Violation) : OfRecords (.schema v)
  | inconsistent (field : EdgeEnd) (expected found : Urn) :
      OfRecords (.inconsistent field expected found)
  | properties (e : PropertyError) : OfRecords (.properties e)

/-- What a validator says of the records of a call. -/
def WriteCall.verdicts (validator : Validator) : WriteCall → List (Except Violation Unit)
  | addEntities es => es.map validator.entity
  | removeEntities _ => []
  | addRelationships _ rs => rs.map validator.relationship
  | removeRelationships rs => rs.map validator.relationship

/-! ## Rejected records -/

namespace Validator

variable {check : α → Except Violation Unit} {records : List α}

/-- The violation among records is that of the first one that is rejected. -/
theorem first_rejected_of_all {e : GraphError} (failed : all check records = .error e) :
    ∃ earlier v later, records.map check = earlier ++ .error v :: later ∧
      (∀ verdict ∈ earlier, verdict = .ok ()) ∧ e = .schema v := by
  induction records with
  | nil => cases failed
  | cons r rest ih =>
      unfold all at failed
      split at failed
      · rename_i accepted
        obtain ⟨earlier, v, later, split, fine, rfl⟩ := ih failed
        refine ⟨.ok () :: earlier, v, later, ?_, List.forall_mem_cons.mpr ⟨rfl, fine⟩, rfl⟩
        rw [List.map_cons, accepted, split, List.cons_append]
      · rename_i v rejected
        cases failed
        refine ⟨[], v, rest.map check, ?_, List.forall_mem_nil _, rfl⟩
        rw [List.map_cons, rejected, List.nil_append]

/-- With a record that is rejected no batch is built. -/
theorem refused_of_rejected {v : Violation} (rejected : .error v ∈ records.map check)
    (built : Except GraphError (List Statement)) :
    ∃ earlier v later, records.map check = earlier ++ .error v :: later ∧
      (∀ verdict ∈ earlier, verdict = .ok ()) ∧
      (all check records >>= fun _ => built) = .error (.schema v) := by
  cases checked : all check records with
  | ok valid =>
      obtain ⟨r, member, found⟩ := List.mem_map.mp rejected
      cases (all_eq_ok_iff.mp checked r member).symm.trans found
  | error e =>
      obtain ⟨earlier, v, later, split, fine, rfl⟩ := first_rejected_of_all checked
      exact ⟨earlier, v, later, split, fine, rfl⟩

end Validator

/-! ## Relationships that differ -/

theorem EdgeEnd.Deviates.differs {field : EdgeEnd} {rs : List Relationship}
    {expected found : Urn} (deviates : field.Deviates rs expected found) : field.Differs rs := by
  obtain ⟨⟨first, rest, here, rfl⟩, ⟨earlier, r, later, there, -, rfl⟩, differ⟩ := deviates
  refine ⟨r, ?_, first, ?_, differ⟩
  · rw [there]
    exact List.mem_append_right _ List.mem_cons_self
  · rw [here]
    exact List.mem_cons_self

theorem RemovalPolicy.not_sharedBy_iff {policy : RemovalPolicy} {rs : List Relationship} :
    ¬ policy.SharedBy rs ↔
      policy.sharesSource = true ∧ EdgeEnd.source.Differs rs ∨
        policy.sharesDestination = true ∧ EdgeEnd.destination.Differs rs := by
  constructor
  · intro unshared
    by_contra neither
    obtain ⟨source, destination⟩ := not_or.mp neither
    refine unshared ⟨?_, ?_⟩
    · intro shares r here r' there
      by_contra differ
      exact source ⟨shares, r, here, r', there, differ⟩
    · intro shares r here r' there
      by_contra differ
      exact destination ⟨shares, r, here, r', there, differ⟩
  · rintro (⟨shares, r, here, r', there, differ⟩ | ⟨shares, r, here, r', there, differ⟩) shared
    · exact differ (shared.source shares r here r' there)
    · exact differ (shared.destination shares r here r' there)

namespace Statement

variable {registry : Registry} {policy : RemovalPolicy} {rs : List Relationship}

theorem deviates_of_checkShared {field : EdgeEnd} {first : Relationship}
    {rest : List Relationship} {e : GraphError}
    (failed : checkShared field (field.urn first) (first :: rest) = .error e) :
    ∃ found, e = .inconsistent field (field.urn first) found ∧
      field.Deviates (first :: rest) (field.urn first) found := by
  unfold checkShared at failed
  split at failed
  · rename_i r found
    cases failed
    obtain ⟨differ, earlier, later, split, before⟩ := List.find?_eq_some_iff_append.mp found
    refine ⟨field.urn r, rfl, ⟨first, rest, rfl, rfl⟩, ⟨earlier, r, later, split, ?_, rfl⟩, ?_⟩
    · intro other member
      simpa using before other member
    · simpa using differ
  · cases failed

/-- A removal whose label is an identifier is refused if the relationships differ in an end. -/
theorem refuses_of_removal {e : GraphError}
    (labels : ∀ r ∈ rs, Identifier.isValid r.label = true)
    (failed : removal registry policy rs = .error e) :
    ∃ field expected found, e = .inconsistent field expected found ∧
      policy.Refuses rs field expected found := by
  cases rs with
  | nil => cases policy <;> cases failed
  | cons first rest =>
      have label := checkedLabel_eq_ok (labels first List.mem_cons_self)
      have source (shares : policy.sharesSource = true)
          (differ : checkShared .source (EdgeEnd.source.urn first) (first :: rest) = .error e) :
          ∃ field expected found, e = .inconsistent field expected found ∧
            policy.Refuses (first :: rest) field expected found := by
        obtain ⟨found, rfl, deviates⟩ := deviates_of_checkShared differ
        exact ⟨.source, _, found, rfl, .source shares deviates⟩
      have destination (shares : policy.sharesDestination = true)
          (agree : policy.sharesSource = true → ¬ EdgeEnd.source.Differs (first :: rest))
          (differ : checkShared .destination (EdgeEnd.destination.urn first) (first :: rest) =
            .error e) :
          ∃ field expected found, e = .inconsistent field expected found ∧
            policy.Refuses (first :: rest) field expected found := by
        obtain ⟨found, rfl, deviates⟩ := deviates_of_checkShared differ
        exact ⟨.destination, _, found, rfl, .destination shares agree deviates⟩
      unfold removal at failed
      cases policy with
      | none => cases failed
      | allFromSource =>
          rcases bind_eq_error_iff.mp failed with unlabelled | ⟨_, -, failed⟩
          · cases label.symm.trans unlabelled
          rcases bind_eq_error_iff.mp failed with differ | ⟨_, -, done⟩
          · exact source rfl differ
          · cases done
      | allToDestination =>
          rcases bind_eq_error_iff.mp failed with unlabelled | ⟨_, -, failed⟩
          · cases label.symm.trans unlabelled
          rcases bind_eq_error_iff.mp failed with differ | ⟨_, -, done⟩
          · exact destination rfl Bool.noConfusion differ
          · cases done
      | allFromSourceToDestination =>
          rcases bind_eq_error_iff.mp failed with unlabelled | ⟨_, -, failed⟩
          · cases label.symm.trans unlabelled
          rcases bind_eq_error_iff.mp failed with differ | ⟨⟨⟩, same, failed⟩
          · exact source rfl differ
          have agree : ¬ EdgeEnd.source.Differs (first :: rest) := by
            rintro ⟨r, here, r', there, differ⟩
            have urns := urn_of_checkShared same
            exact differ ((urns r here).trans (urns r' there).symm)
          rcases bind_eq_error_iff.mp failed with differ | ⟨_, -, done⟩
          · exact destination rfl (fun _ => agree) differ
          · cases done

theorem sharedBy_of_removal {cleared : Option Statement}
    (built : removal registry policy rs = .ok cleared) : policy.SharedBy rs := by
  cases rs with
  | nil =>
      constructor
      · intro _ r member
        cases member
      · intro _ r member
        cases member
  | cons first rest =>
      by_cases clears : policy = .none
      · subst clears
        constructor
        · intro impossible
          cases impossible
        · intro impossible
          cases impossible
      · obtain ⟨-, source, destination, -⟩ := removal_cases clears built
        constructor
        · intro shares r here r' there
          exact (source shares r here).trans (source shares r' there).symm
        · intro shares r here r' there
          exact (destination shares r here).trans (destination shares r' there).symm

/-- With writable relationships only the removal can be refused. -/
theorem removal_of_refused {e : GraphError} (writable : ∀ r ∈ rs, r.Writable)
    (failed : addRelationships registry policy rs = .error e) :
    removal registry policy rs = .error e := by
  rcases bind_eq_error_iff.mp failed with refused | ⟨cleared, -, more⟩
  · exact refused
  · obtain ⟨written, built⟩ := upsertEdges_of_writable registry writable
    rcases bind_eq_error_iff.mp more with unwritten | ⟨_, -, done⟩
    · cases built.symm.trans unwritten
    · cases done

theorem refuses_of_addRelationships {e : GraphError} (writable : ∀ r ∈ rs, r.Writable)
    (failed : addRelationships registry policy rs = .error e) :
    ∃ field expected found, e = .inconsistent field expected found ∧
      policy.Refuses rs field expected found :=
  refuses_of_removal (fun r member => (writable r member).label)
    (removal_of_refused writable failed)

/-- Writable relationships are refused just if they differ in an end that the policy wants
shared. -/
theorem exists_inconsistent_iff (writable : ∀ r ∈ rs, r.Writable) :
    (∃ field expected found,
      addRelationships registry policy rs = .error (.inconsistent field expected found)) ↔
      policy.sharesSource = true ∧ EdgeEnd.source.Differs rs ∨
        policy.sharesDestination = true ∧ EdgeEnd.destination.Differs rs := by
  rw [← RemovalPolicy.not_sharedBy_iff]
  constructor
  · rintro ⟨field, expected, found, failed⟩ shared
    obtain ⟨ss, built⟩ := addRelationships_of_writable registry writable shared
    cases built.symm.trans failed
  · intro unshared
    cases tried : addRelationships registry policy rs with
    | ok ss =>
        obtain ⟨cleared, built, -⟩ := bind_eq_ok_iff.mp tried
        exact absurd (sharedBy_of_removal built) unshared
    | error e =>
        obtain ⟨field, expected, found, rfl, -⟩ := refuses_of_addRelationships writable tried
        exact ⟨field, expected, found, rfl⟩

end Statement

/-! ## Calls -/

namespace WriteCall

variable {w : Writer σ} {call : WriteCall} {s after : Scene σ ν} {e : GraphError}

theorem run_of_refused (refused : call.batch w.registry w.validator = .error e) :
    (call.run w s).1 = .error e := by
  cases done : call.run w s with
  | mk result after =>
      cases ends_of_run done with
      | refused built same =>
          cases built.symm.trans refused
          rfl
      | idle built same => cases built.symm.trans refused
      | failed built nonempty ended => cases built.symm.trans refused
      | committed built nonempty ended => cases built.symm.trans refused

/-- A call that fails because of its records has been refused: nothing was executed, and nobody
was told. -/
theorem refused_of_run (fault : e.OfRecords) (done : call.run w s = (.error e, after)) :
    call.batch w.registry w.validator = .error e ∧
      after.world.store = s.world.store ∧ after.fanout = s.fanout := by
  cases ends_of_run done with
  | refused built same => exact ⟨built, same, rfl⟩
  | failed built nonempty ended =>
      cases ended with
      | failed retried within last => cases fault
      | exhausted retried last => cases fault

theorem run_eq_error_iff (fault : e.OfRecords) :
    (call.run w s).1 = .error e ↔ call.batch w.registry w.validator = .error e :=
  ⟨fun failed => (refused_of_run fault (Prod.ext failed rfl)).1, run_of_refused⟩

/-- A call with a record that the validator rejects is refused for the first such record. -/
theorem batch_of_rejected {registry : Registry} {validator : Validator} {v : Violation}
    (rejected : .error v ∈ call.verdicts validator) :
    ∃ earlier v later, call.verdicts validator = earlier ++ .error v :: later ∧
      (∀ verdict ∈ earlier, verdict = .ok ()) ∧
      call.batch registry validator = .error (.schema v) := by
  cases call with
  | addEntities es => exact Validator.refused_of_rejected rejected _
  | removeEntities us => cases rejected
  | addRelationships policy rs => exact Validator.refused_of_rejected rejected _
  | removeRelationships rs => exact Validator.refused_of_rejected rejected _

end WriteCall

namespace Writer

/-- Relationships that are accepted are refused just if they differ in an end that the policy
wants shared. A call that is refused leaves the store and the listeners alone, and a record that
is rejected is refused before all else. -/
theorem refusals_exact (w : Writer σ) (s : Scene σ ν) :
    (∀ policy rs, (∀ r ∈ rs, w.validator.relationship r = .ok ()) →
      (∀ r ∈ rs, Validator.structural.relationship r = .ok ()) →
      ((∃ field expected found,
        (w.addRelationships policy rs s).1 = .error (.inconsistent field expected found)) ↔
        policy.sharesSource = true ∧ EdgeEnd.source.Differs rs ∨
          policy.sharesDestination = true ∧ EdgeEnd.destination.Differs rs) ∧
      ∀ field expected found,
        (w.addRelationships policy rs s).1 = .error (.inconsistent field expected found) →
        policy.Refuses rs field expected found) ∧
    (∀ (call : WriteCall) (e : GraphError) (after : Scene σ ν), e.OfRecords →
      call.run w s = (.error e, after) →
      after.world.store = s.world.store ∧ after.fanout = s.fanout) ∧
    ∀ (call : WriteCall) (v : Violation), .error v ∈ call.verdicts w.validator →
      ∃ earlier v later, call.verdicts w.validator = earlier ++ .error v :: later ∧
        (∀ verdict ∈ earlier, verdict = .ok ()) ∧ (call.run w s).1 = .error (.schema v) := by
  refine ⟨?_, ?_, ?_⟩
  · intro policy rs valid accepted
    have writable := WriteCall.writable_of_accepted accepted
    have batch : (WriteCall.addRelationships policy rs).batch w.registry w.validator =
        Statement.addRelationships w.registry policy rs := by
      rw [WriteCall.batch, Validator.all_eq_ok_iff.mpr valid]
      rfl
    have run : (WriteCall.addRelationships policy rs).run w s = w.addRelationships policy rs s :=
      rfl
    have refused (field : EdgeEnd) (expected found : Urn) :
        (w.addRelationships policy rs s).1 = .error (.inconsistent field expected found) ↔
          Statement.addRelationships w.registry policy rs =
            .error (.inconsistent field expected found) := by
      rw [← batch, ← run]
      exact WriteCall.run_eq_error_iff (.inconsistent field expected found)
    simp only [refused]
    refine ⟨Statement.exists_inconsistent_iff writable, ?_⟩
    intro field expected found failed
    obtain ⟨_, _, _, same, refuses⟩ := Statement.refuses_of_addRelationships writable failed
    cases same
    exact refuses
  · intro call e after fault done
    exact (WriteCall.refused_of_run fault done).2
  · intro call v rejected
    obtain ⟨earlier, v, later, split, fine, refused⟩ := WriteCall.batch_of_rejected rejected
    exact ⟨earlier, v, later, split, fine, WriteCall.run_of_refused refused⟩

/-- A batch that leads from Ann to Bob and to Cay is refused while a failure is in line, which
stays there. With two labels that are none, it is refused for the first of them. -/
theorem refusals_exact_late :
    let w := Memory.writer Registry.empty .structural .default
    let rs : List Relationship :=
      [.knows .ann .bob, .knows .ann .bob, .knows .ann .cay, .knows .ann .ann]
    let call : WriteCall := .addRelationships .allFromSourceToDestination
      [.knows .ann .bob, .knows .ann .cay, ⟨"KNOWS WELL", .ann, .bob, .ok .empty, []⟩,
        ⟨"", .ann, .bob, .ok .empty, []⟩]
    let v : Violation := ⟨"KNOWS WELL", .relationshipLabel⟩
    let start : Scene Memory Unit :=
      ⟨.ofStore (Memory.empty.failNext (.fatal "lost")), .ofListeners [.reporting]⟩
    ∃ after after',
      w.addRelationships .allFromSourceToDestination rs start =
        (.error (.inconsistent .destination .bob .cay), after) ∧
      RemovalPolicy.allFromSourceToDestination.Refuses rs .destination .bob .cay ∧
      after.world.store = start.world.store ∧ after.fanout = start.fanout ∧
      call.run w start = (.error (.schema v), after') ∧
      (∃ earlier later, call.verdicts .structural = earlier ++ .error v :: later ∧
        ∀ verdict ∈ earlier, verdict = .ok ()) ∧
      after'.world.store = start.world.store ∧ after'.fanout = start.fanout := by
  intro w rs call v start
  obtain ⟨refuses, untouched, earliest⟩ := refusals_exact w start
  have accepted : ∀ r ∈ rs, Validator.structural.relationship r = .ok () := by
    simp only [rs, List.forall_mem_cons]
    exact ⟨rfl, rfl, rfl, rfl, List.forall_mem_nil _⟩
  have differ : (w.addRelationships .allFromSourceToDestination rs start).1 =
      .error (.inconsistent .destination .bob .cay) := rfl
  obtain ⟨-, reported⟩ := refuses .allFromSourceToDestination rs accepted accepted
  obtain ⟨store, fanout⟩ := untouched (.addRelationships .allFromSourceToDestination rs) _ _
    (.inconsistent _ _ _) (Prod.ext differ rfl)
  have first : (call.run w start).1 = .error (.schema v) := rfl
  obtain ⟨store', fanout'⟩ := untouched call _ _ (.schema v) (Prod.ext first rfl)
  have rejected : .error v ∈ call.verdicts .structural :=
    List.mem_cons_of_mem _ (List.mem_cons_of_mem _ List.mem_cons_self)
  obtain ⟨earlier, v', later, split, fine, failed⟩ := earliest call v rejected
  obtain rfl : v' = v := by
    cases failed.symm.trans first
    rfl
  exact ⟨_, _, Prod.ext differ rfl, reported _ _ _ differ, store, fanout, Prod.ext first rfl,
    ⟨earlier, later, split, fine⟩, store', fanout'⟩

end Writer

end RecordGraph
