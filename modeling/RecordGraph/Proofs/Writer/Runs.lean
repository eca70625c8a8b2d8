import RecordGraph.Proofs.Store.Failures
import RecordGraph.Proofs.Writer.Calls

/-!
# Writing to a graph in memory

A call has its whole effect on the graph or none, whatever failures are in line. So every
graph that calls lead to is consistent and keeps its properties in order.
-/

namespace RecordGraph.Memory

/-- A writer to a graph in memory. -/
def writer (registry : Registry) (validator : Validator) (settings : WriterSettings) :
    Writer Memory := ⟨store, registry, validator, settings⟩

variable {registry : Registry} {validator : Validator} {settings : WriterSettings}

/-- A call that is refused or fails leaves the graph alone. -/
theorem unchanged_of_run {call : WriteCall} {s after : Scene Memory ν} {e : GraphError}
    (done : call.run (writer registry validator settings) s = (.error e, after)) :
    Unchanged s.world.store after.world.store := by
  have outcome := WriteCall.outcome_of_run done
  generalize failed : (Except.error e : Except GraphError Unit) = result at outcome
  generalize after.world.store = m at outcome
  cases outcome with
  | refused built => exact ⟨rfl, rfl⟩
  | idle built => cases failed
  | executed built nonempty ended =>
      rename_i retries
      cases retries with
      | error e => exact unchanged_of_ended ended
      | ok n => cases failed

/-- The batch of a call was applied once, or there was nothing to apply. -/
inductive Written (ss : List Statement) (before : Memory) : Memory → Prop
  | nothing (empty : ss = []) : Written ss before before
  | once {after : Memory} {retries : Nat} (nonempty : ss ≠ [])
      (committed : Committed ss retries before after) : Written ss before after

theorem Written.graph {ss : List Statement} {before after : Memory}
    (written : Written ss before after) : before.graph.applyAll ss = .ok after.graph := by
  cases written with
  | nothing empty =>
      rw [empty]
      rfl
  | once nonempty committed => exact committed.graph

/-- A call that succeeds was built, and its batch applied once. -/
theorem written_of_run {call : WriteCall} {s after : Scene Memory ν}
    (done : call.run (writer registry validator settings) s = (.ok (), after)) :
    ∃ ss, call.batch registry validator = .ok ss ∧
      Written ss s.world.store after.world.store := by
  have outcome := WriteCall.outcome_of_run done
  generalize worked : (Except.ok () : Except GraphError Unit) = result at outcome
  generalize after.world.store = m at outcome ⊢
  cases outcome with
  | refused built => cases worked
  | idle built => exact ⟨[], built, .nothing rfl⟩
  | executed built nonempty ended =>
      rename_i ss retries
      cases retries with
      | error e => cases worked
      | ok n => exact ⟨ss, built, .once nonempty (committed_of_ended nonempty ended)⟩

/-- The effect of a call that succeeds. -/
theorem graph_of_run {call : WriteCall} {s after : Scene Memory ν}
    (done : call.run (writer registry validator settings) s = (.ok (), after)) :
    after.world.store.graph = call.effect registry s.world.store.graph := by
  obtain ⟨ss, built, written⟩ := written_of_run done
  have applied := written.graph
  rw [WriteCall.applyAll_batch built] at applied
  exact (Except.ok.inj applied).symm

/-- A call whose batch is built succeeds if all failures in line are transient and the retries
last for them. -/
theorem ok_of_line {call : WriteCall}
    (built : ∃ ss, call.batch registry validator = .ok ss) {s : Scene Memory ν}
    (short : s.world.store.failures.length ≤ settings.maxRetries.toNat)
    (transient : ∀ e ∈ s.world.store.failures, e.isTransient = true) :
    ∃ after, call.run (writer registry validator settings) s = (.ok (), after) := by
  obtain ⟨ss, built⟩ := built
  cases done : call.run (writer registry validator settings) s with
  | mk result after =>
      have outcome := WriteCall.outcome_of_run done
      generalize after.world.store = m at outcome
      cases outcome with
      | refused refusal => cases built.symm.trans refusal
      | idle nothing => exact ⟨after, rfl⟩
      | executed again nonempty ended =>
          cases built.symm.trans again
          have total (g : Graph) : ∃ g', g.applyAll ss = .ok g' :=
            ⟨_, WriteCall.applyAll_batch built g⟩
          have answers := (verdict_of_ended nonempty total ended).answers
          rw [answers.succeeds.mpr ⟨short, transient⟩]
          exact ⟨after, rfl⟩

/-- With records a call succeeds in no other case. -/
theorem line_of_ok {call : WriteCall} {s after : Scene Memory ν}
    (done : call.run (writer registry validator settings) s = (.ok (), after))
    (some : call.count ≠ 0) :
    s.world.store.failures.length ≤ settings.maxRetries.toNat ∧
      ∀ e ∈ s.world.store.failures, e.isTransient = true := by
  have outcome := WriteCall.outcome_of_run done
  generalize worked : (Except.ok () : Except GraphError Unit) = result at outcome
  generalize after.world.store = m at outcome
  cases outcome with
  | refused built => cases worked
  | idle built => exact absurd ((WriteCall.count_eq_zero_iff built).mpr rfl) some
  | executed built nonempty ended =>
      rename_i ss retries
      have total (g : Graph) : ∃ g', g.applyAll ss = .ok g' :=
        ⟨_, WriteCall.applyAll_batch built g⟩
      exact (verdict_of_ended nonempty total ended).answers.succeeds.mp worked.symm

/-- Where a call with records succeeds, any other succeeds whose batch is built. -/
theorem ok_of_ok {call other : WriteCall} {s after : Scene Memory ν}
    (done : call.run (writer registry validator settings) s = (.ok (), after))
    (some : call.count ≠ 0) (built : ∃ ss, other.batch registry validator = .ok ss) :
    ∃ after, other.run (writer registry validator settings) s = (.ok (), after) := by
  obtain ⟨short, transient⟩ := line_of_ok done some
  exact ok_of_line built short transient

/-- With no failure in line a call succeeds whose batch is built, and none is in line then. -/
theorem ok_of_idle {call : WriteCall}
    (built : ∃ ss, call.batch registry validator = .ok ss)
    {s : Scene Memory ν} (idle : s.world.store.failures = []) :
    ∃ after, call.run (writer registry validator settings) s = (.ok (), after) ∧
      after.world.store.failures = [] ∧
      after.world.store.graph = call.effect registry s.world.store.graph := by
  obtain ⟨after, done⟩ : ∃ after, call.run (writer registry validator settings) s =
      (.ok (), after) := by
    refine ok_of_line built ?_ ?_
    · rw [idle]
      exact Nat.zero_le _
    · rw [idle]
      exact List.forall_mem_nil _
  refine ⟨after, done, ?_, graph_of_run done⟩
  obtain ⟨ss, -, written⟩ := written_of_run done
  generalize after.world.store = m at written
  cases written with
  | nothing empty => exact idle
  | once nonempty committed => exact committed.outlasted

section

variable (registry : Registry) (validator : Validator) (settings : WriterSettings)
  {s : Scene Memory ν}

theorem addEntities_of_idle (es : List Entity)
    (built : ∃ ss, (WriteCall.addEntities es).batch registry validator = .ok ss)
    (idle : s.world.store.failures = []) :
    ∃ after, (writer registry validator settings).addEntities es s = (.ok (), after) ∧
      after.world.store.failures = [] ∧
      after.world.store.graph = s.world.store.graph.upsertAll (es.map registry.written) :=
  ok_of_idle built idle

theorem removeEntities_of_idle (us : List Urn) (idle : s.world.store.failures = []) :
    ∃ after, (writer registry validator settings).removeEntities us s = (.ok (), after) ∧
      after.world.store.failures = [] ∧
      after.world.store.graph = s.world.store.graph.deleteAll (us.map registry.node) :=
  @ok_of_idle registry validator settings _ (.removeEntities us) ⟨_, rfl⟩ _ idle

theorem addRelationships_of_idle (policy : RemovalPolicy) (rs : List Relationship)
    (built : ∃ ss, (WriteCall.addRelationships policy rs).batch registry validator = .ok ss)
    (idle : s.world.store.failures = []) :
    ∃ after, (writer registry validator settings).addRelationships policy rs s =
        (.ok (), after) ∧
      after.world.store.failures = [] ∧
      after.world.store.graph = s.world.store.graph.replace policy (rs.map registry.edge) :=
  ok_of_idle built idle

theorem removeRelationships_of_idle (rs : List Relationship)
    (built : ∃ ss, (WriteCall.removeRelationships rs).batch registry validator = .ok ss)
    (idle : s.world.store.failures = []) :
    ∃ after, (writer registry validator settings).removeRelationships rs s = (.ok (), after) ∧
      after.world.store.failures = [] ∧
      after.world.store.graph = s.world.store.graph.unlinkAll (rs.map registry.selection) :=
  ok_of_idle built idle

end

/-- What calls of any writers make of an empty graph, while failures are put in line. -/
inductive Reachable : Memory → Prop
  | empty : Reachable empty
  | failNext {m : Memory} (before : Reachable m) (e : StoreError) : Reachable (m.failNext e)
  | run {ν : Type} {s after : Scene Memory ν} {result : Except GraphError Unit}
      (before : Reachable s.world.store) (registry : Registry) (validator : Validator)
      (settings : WriterSettings) (call : WriteCall)
      (done : call.run (writer registry validator settings) s = (result, after)) :
      Reachable after.world.store

theorem Reachable.addEntities {s after : Scene Memory ν} {result : Except GraphError Unit}
    (before : Reachable s.world.store) {es : List Entity}
    (done : (writer registry validator settings).addEntities es s = (result, after)) :
    Reachable after.world.store :=
  before.run registry validator settings (.addEntities es) done

theorem Reachable.addRelationships {s after : Scene Memory ν} {result : Except GraphError Unit}
    (before : Reachable s.world.store) {policy : RemovalPolicy} {rs : List Relationship}
    (done : (writer registry validator settings).addRelationships policy rs s = (result, after)) :
    Reachable after.world.store :=
  before.run registry validator settings (.addRelationships policy rs) done

/-- Whatever the graphs keep that are the effects of calls, all reachable graphs have. -/
theorem Reachable.induct {P : Graph → Prop} (empty : P Graph.empty)
    (effect : ∀ registry validator (call : WriteCall) ss g, P g →
      call.batch registry validator = .ok ss → P (call.effect registry g))
    {m : Memory} (reachable : Reachable m) : P m.graph := by
  induction reachable with
  | empty => exact empty
  | failNext before e ih => exact ih
  | run before registry validator settings call done ih =>
      rename_i result
      cases result with
      | error e => exact (unchanged_of_run done).graph ▸ ih
      | ok worked =>
          obtain ⟨ss, built, -⟩ := written_of_run done
          rw [graph_of_run done]
          exact effect registry validator call ss _ ih built

theorem Reachable.consistent {m : Memory} (reachable : Reachable m) : m.graph.Consistent := by
  refine reachable.induct Graph.Consistent.empty ?_
  intro registry validator call ss g consistent built
  exact consistent.applyAll (WriteCall.applyAll_batch built g)

theorem Reachable.ordered {m : Memory} (reachable : Reachable m) : m.graph.Ordered := by
  refine reachable.induct Graph.Ordered.empty ?_
  intro registry validator call ss g ordered built
  exact call.effect_ordered ordered

/-- Every execution of a batch, and with it every call, has its whole effect once or none. -/
theorem all_or_nothing :
    (∀ (settings : WriterSettings) (ss : List Statement) (w : World Memory), ss ≠ [] →
      match store.execute settings ss w with
      | (.error _, after) => Unchanged w.store after.store
      | (.ok execution, after) =>
          Committed ss execution.retries.toNat w.store after.store) ∧
    ∀ (registry : Registry) (validator : Validator) (settings : WriterSettings)
      (call : WriteCall) (ν : Type) (s : Scene Memory ν),
      match call.run (writer registry validator settings) s with
      | (.error _, after) => Unchanged s.world.store after.world.store
      | (.ok (), after) =>
          after.world.store.graph = call.effect registry s.world.store.graph ∧
            ∃ ss, call.batch registry validator = .ok ss ∧
              Written ss s.world.store after.world.store := by
  refine ⟨?_, ?_⟩
  · intro settings ss w nonempty
    cases done : store.execute settings ss w with
    | mk result after =>
        have ended := Store.ended_of_execute nonempty done
        cases result with
        | error e => exact unchanged_of_ended ended
        | ok execution => exact committed_of_ended nonempty ended
  · intro registry validator settings call ν s
    cases done : call.run (writer registry validator settings) s with
    | mk result after =>
        cases result with
        | error e => exact unchanged_of_run done
        | ok worked => exact ⟨graph_of_run done, written_of_run done⟩

/-- With a failure in line the batch is applied by the second transaction. -/
theorem all_or_nothing_after_failure :
    let batch := [Statement.ofOperation (.mergeNode "Person") [(Param.urn, .str "urn:a:b:c")]]
    let before : World Memory := .ofStore (empty.failNext (.transient "connection reset"))
    ∃ execution after, store.execute ⟨1, none, 0⟩ batch before = (.ok execution, after) ∧
      execution.retries = 1 ∧ batch ≠ [] ∧ Committed batch 1 before.store after.store := by
  intro batch before
  have nonempty : batch ≠ [] := List.cons_ne_nil _ _
  have committed := all_or_nothing.1 ⟨1, none, 0⟩ batch before nonempty
  exact ⟨_, _, rfl, rfl, nonempty, committed⟩

end RecordGraph.Memory
