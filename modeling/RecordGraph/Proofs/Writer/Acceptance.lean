import RecordGraph.Proofs.Statement.Writable
import RecordGraph.Proofs.Writer.Runs

/-!
# Accepted calls

A call whose records the structural validator accepts is built, and its statements can be
carried out on every graph. So only the failures in line decide how it ends.
-/

namespace RecordGraph.WriteCall

/-- Whether a call has records, all of which the structural validator accepts, and shares the
ends that its policy asks for. -/
def Accepted : WriteCall → Prop
  | addEntities es => es ≠ [] ∧ ∀ e ∈ es, Validator.structural.entity e = .ok ()
  | removeEntities us => us ≠ []
  | addRelationships policy rs =>
      rs ≠ [] ∧ (∀ r ∈ rs, Validator.structural.relationship r = .ok ()) ∧ policy.SharedBy rs
  | removeRelationships rs =>
      rs ≠ [] ∧ ∀ r ∈ rs, Validator.structural.relationship r = .ok ()

theorem writable_of_accepted {rs : List Relationship}
    (accepted : ∀ r ∈ rs, Validator.structural.relationship r = .ok ()) :
    ∀ r ∈ rs, r.Writable :=
  fun r member => Validator.structuralRelationship_eq_ok_iff.mp (accepted r member)

/-- Records of which each is valid become a batch, if they become statements at all. -/
theorem exists_batch {check : α → Except Violation Unit} {records : List α}
    {built : Except GraphError (List Statement)} (nonempty : records ≠ [])
    (each : ∀ r ∈ records, check r = .ok ()) (possible : ∃ ss, built = .ok ss)
    (counted : ∀ ss, built = .ok ss → (records.length = 0 ↔ ss = [])) :
    ∃ ss, (Validator.all check records >>= fun _ => built) = .ok ss ∧ ss ≠ [] := by
  obtain ⟨ss, done⟩ := possible
  refine ⟨ss, ?_, ?_⟩
  · rw [Validator.all_eq_ok_iff.mpr each]
    exact done
  · intro none
    exact nonempty (List.length_eq_zero_iff.mp ((counted ss done).mpr none))

/-- The batch of an accepted call is built, and it is not empty. -/
theorem batch_of_accepted {call : WriteCall} (accepted : call.Accepted) (registry : Registry) :
    ∃ ss, call.batch registry .structural = .ok ss ∧ ss ≠ [] := by
  cases call with
  | addEntities es =>
      obtain ⟨nonempty, each⟩ := accepted
      have writable : ∀ e ∈ es, e.Writable :=
        fun e member => Validator.structuralEntity_eq_ok_iff.mp (each e member)
      have possible := Statement.upsertNodes_of_writable registry writable
      exact exists_batch nonempty each possible fun ss => length_upsertNodes
  | removeEntities us =>
      refine ⟨us.map (Statement.deleteNode registry), rfl, ?_⟩
      intro none
      exact accepted (List.map_eq_nil_iff.mp none)
  | addRelationships policy rs =>
      obtain ⟨nonempty, each, shared⟩ := accepted
      have possible :=
        Statement.addRelationships_of_writable registry (writable_of_accepted each) shared
      exact exists_batch nonempty each possible fun ss => length_addRelationships
  | removeRelationships rs =>
      obtain ⟨nonempty, each⟩ := accepted
      have possible := Statement.deleteEdges_of_writable registry (writable_of_accepted each)
      exact exists_batch nonempty each possible fun ss => length_deleteEdges

/-- An accepted call is built and carried out whatever the graph is, and its answer depends on
the failures in line alone. -/
theorem answers_of_accepted {call : WriteCall} (accepted : call.Accepted) (registry : Registry)
    (settings : WriterSettings) (s : Scene Memory ν) :
    Memory.Answers settings.maxRetries.toNat s.world.store.failures
      (call.run (Memory.writer registry .structural settings) s).1 ∧
    ∃ ss, call.batch registry .structural = .ok ss ∧
      ∀ statement ∈ ss, ∀ g : Graph, ∃ g', g.apply statement = .ok g' := by
  obtain ⟨ss, built, nonempty⟩ := batch_of_accepted accepted registry
  have total (g : Graph) : ∃ g', g.applyAll ss = .ok g' := ⟨_, applyAll_batch built g⟩
  refine ⟨?_, ss, built, Graph.apply_of_applyAll (applyAll_batch built Graph.empty)⟩
  cases done : call.run (Memory.writer registry .structural settings) s with
  | mk result after =>
      have outcome := outcome_of_run done
      generalize after.world.store = m at outcome
      cases outcome with
      | refused refusal => cases built.symm.trans refusal
      | idle nothing =>
          cases built.symm.trans nothing
          exact absurd rfl nonempty
      | executed again more ended =>
          cases built.symm.trans again
          exact (Memory.verdict_of_ended nonempty total ended).answers

/-- The failure that cannot be retried comes second in line, so it is the answer. -/
theorem answers_of_accepted_fatal :
    let call : WriteCall := .addRelationships .allToDestination
      [⟨"KNOWS", .ann, .bob, .ok ⟨[("since", .int 1843)], rfl⟩, ["since", "where"]⟩,
        .likes .bob .bob]
    let line : List StoreError :=
      [.transient "deadlock", .fatal "constraint violated", .transient "deadlock"]
    let start : Scene Memory Unit :=
      ⟨.ofStore { Memory.empty with failures := line }, .ofListeners []⟩
    call.Accepted ∧
      (call.run (Memory.writer Registry.empty .structural .default) start).1 =
        .error (.store (.fatal "constraint violated")) := by
  intro call line start
  have accepted : call.Accepted := by
    refine ⟨List.cons_ne_nil _ _, ?_, ?_⟩
    · simp only [List.forall_mem_cons]
      exact ⟨rfl, rfl, by simp⟩
    · constructor
      · intro shared
        cases shared
      · intro shared
        simp [Relationship.likes]
  obtain ⟨answers, -⟩ := answers_of_accepted accepted Registry.empty .default start
  refine ⟨accepted, ?_⟩
  rcases answers.otherwise with committed | gaveUp | ⟨e, first, failed⟩
  · obtain ⟨-, transient⟩ := answers.succeeds.mp committed
    cases transient (.fatal "constraint violated") (by decide)
  · obtain ⟨-, transient⟩ := answers.givesUp.mp gaveUp
    cases transient (.fatal "constraint violated") (by decide)
  · cases first
    exact failed

end RecordGraph.WriteCall
