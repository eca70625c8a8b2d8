import RecordGraph.Proofs.Graph.Consistency
import RecordGraph.Proofs.Store.Attempts
import RecordGraph.Store.Memory

/-!
# Transactions in memory

A transaction in memory commits all of its statements or leaves the graph alone, and so does
an execution, however often it is repeated. Whatever transactions are asked for, the graph
stays consistent.
-/

namespace RecordGraph.Memory

theorem trial_eq_transact (settings : WriterSettings) (statements : List Statement)
    (m : Memory) : store.trial settings statements m = transact statements m := by
  rw [Store.trial_eq_within]
  cases settings.timeoutMillis with
  | none => rfl
  | some limit => rfl

/-- What a transaction begins with: one failure less in line, and one transaction more. -/
def begun (m : Memory) : Memory :=
  { m with transactions := m.transactions + 1, failures := m.failures.tail }

/-- A transaction commits if no failure is in line and every statement succeeds. -/
theorem transact_ok {statements : List Statement} (nonempty : statements ≠ []) {m after : Memory}
    (done : transact statements m = (.ok (), after)) :
    m.failures = [] ∧ ∃ graph, m.graph.applyAll statements = .ok graph ∧
      after = { m.begun with
        graph := graph
        committed := m.committed ++ [statements.map Statement.operation] } := by
  unfold transact at done
  split at done
  · rename_i graph worked
    cases done
    obtain ⟨s, later, rfl⟩ := List.exists_cons_of_ne_nil nonempty
    cases inLine : m.failures with
    | nil =>
        rw [inLine] at worked
        exact ⟨rfl, graph, mapError_eq_ok_iff.mp worked, by rw [begun, inLine]⟩
    | cons e rest =>
        rw [inLine, List.head?_cons, attempt] at worked
        split at worked <;> cases worked
  · cases done

/-- A transaction that fails leaves the graph alone, and a transient failure was in line. -/
theorem transact_error {statements : List Statement} {m after : Memory} {e : StoreError}
    (done : transact statements m = (.error e, after)) :
    after = m.begun ∧ (e.isTransient = true → m.failures.head? = some e) := by
  unfold transact at done
  split at done
  · cases done
  · rename_i failed
    cases done
    refine ⟨rfl, ?_⟩
    intro transient
    -- a statement that cannot be carried out fails for good, so the line has struck
    have fatal {e : StoreError} {g : Graph} {ss : List Statement}
        (malformed : (g.applyAll ss).mapError (fun reason => .fatal reason.message) = .error e) :
        e.isTransient = false := by
      cases worked : g.applyAll ss with
      | ok graph =>
          rw [worked] at malformed
          cases malformed
      | error reason =>
          rw [worked] at malformed
          cases malformed
          rfl
    cases inLine : m.failures with
    | nil =>
        rw [inLine] at failed
        rw [fatal failed] at transient
        cases transient
    | cons struck rest =>
        rw [inLine, List.head?_cons] at failed
        cases statements with
        | nil => cases failed
        | cons s later =>
            rw [attempt] at failed
            split at failed
            · cases failed
              rfl
            · cases failed
              cases transient

/-- Transient failures change nothing but the line of failures and the counter. -/
theorem eq_of_retried {settings : WriterSettings} {statements : List Statement}
    {m after : Memory} {n : Nat}
    (retried : store.Retried settings statements m n after) :
    ∃ struck, struck.length = n ∧ (∀ e ∈ struck, e.isTransient = true) ∧
      m.failures = struck ++ after.failures ∧
      after = { m with
        failures := after.failures
        transactions := m.transactions + n } := by
  induction retried with
  | none => exact ⟨[], rfl, by simp, rfl, rfl⟩
  | more before failed ih =>
      rename_i n s next text
      obtain ⟨struck, count, transient, line, same⟩ := ih
      rw [trial_eq_transact] at failed
      obtain ⟨rfl, inLine⟩ := transact_error failed
      obtain ⟨rest, first⟩ := List.head?_eq_some_iff.mp (inLine rfl)
      refine ⟨struck ++ [.transient text], ?_, ?_, ?_, ?_⟩
      · rw [List.length_append, count]
        rfl
      · intro e member
        rcases List.mem_append.mp member with old | last
        · exact transient e old
        · exact List.mem_singleton.mp last ▸ rfl
      · rw [line, begun, first, List.append_assoc]
        rfl
      · rw [begun, same]
        rfl

/-- Nothing of a batch is left in the store. -/
structure Unchanged (before after : Memory) : Prop where
  graph : after.graph = before.graph
  committed : after.committed = before.committed

/-- A batch was applied once, after as many transient failures as were in line. -/
structure Committed (statements : List Statement) (retries : Nat) (before after : Memory) :
    Prop where
  graph : before.graph.applyAll statements = .ok after.graph
  committed : after.committed = before.committed ++ [statements.map Statement.operation]
  transactions : after.transactions = before.transactions + retries + 1
  count : before.failures.length = retries
  transient : ∀ e ∈ before.failures, e.isTransient = true
  outlasted : after.failures = []

theorem unchanged_of_ended {settings : WriterSettings} {statements : List Statement}
    {m after : Memory} {e : GraphError}
    (ended : store.Ended settings statements m (.error e) after) : Unchanged m after := by
  have kept {n : Nat} {s : Memory} {reason : StoreError}
      (retried : store.Retried settings statements m n s)
      (last : store.trial settings statements s = (.error reason, after)) :
      Unchanged m after := by
    obtain ⟨-, -, -, -, same⟩ := eq_of_retried retried
    rw [trial_eq_transact] at last
    obtain ⟨rfl, -⟩ := transact_error last
    rw [begun, same]
    exact ⟨rfl, rfl⟩
  cases ended with
  | failed retried within last => exact kept retried last
  | exhausted retried last => exact kept retried last

theorem committed_of_ended {settings : WriterSettings} {statements : List Statement}
    (nonempty : statements ≠ []) {m after : Memory} {retries : UInt32}
    (ended : store.Ended settings statements m (.ok retries) after) :
    Committed statements retries.toNat m after := by
  cases ended with
  | committed retried within last =>
      rename_i n s
      have counts : (UInt32.ofNat n).toNat = n :=
        UInt32.toNat_ofNat_of_lt' (Nat.lt_of_le_of_lt within settings.maxRetries.toNat_lt)
      obtain ⟨struck, count, transient, line, same⟩ := eq_of_retried retried
      rw [trial_eq_transact] at last
      obtain ⟨idle, graph, applied, rfl⟩ := transact_ok nonempty last
      rw [idle, List.append_nil] at line
      have sameGraph : s.graph = m.graph := by rw [same]
      have sameCommits : s.committed = m.committed := by rw [same]
      have counted : s.transactions = m.transactions + n := by rw [same]
      rw [counts]
      constructor
      · exact sameGraph ▸ applied
      · rw [sameCommits]
      · exact congrArg (· + 1) counted
      · rw [line, count]
      · rw [line]
        exact transient
      · change s.failures.tail = []
        rw [idle]
        rfl

/-! ## Any transactions -/

/-- What may be asked of a store in memory: to fail later on, or to carry out statements. -/
inductive Request
  | failNext (e : StoreError)
  | transact (statements : List Statement)

def serve (m : Memory) : Request → Memory
  | .failNext e => m.failNext e
  | .transact statements => (transact statements m).2

/-- The store after requests, from an empty graph. -/
def served (requests : List Request) : Memory := requests.foldl serve empty

theorem applyAll_of_attempt {g g' : Graph} {failure : Option StoreError}
    {statements : List Statement} (done : attempt g failure statements = .ok g') :
    g.applyAll statements = .ok g' := by
  unfold attempt at done
  split at done
  · split at done <;> cases done
  · exact mapError_eq_ok_iff.mp done

/-- One transaction keeps the graph consistent, whatever its statements are and however it
ends. -/
theorem consistent_transact {m : Memory} (consistent : m.graph.Consistent)
    (statements : List Statement) : (transact statements m).2.graph.Consistent := by
  unfold transact
  split
  · rename_i graph worked
    exact consistent.applyAll (applyAll_of_attempt worked)
  · exact consistent

theorem consistent_serve {m : Memory} (consistent : m.graph.Consistent) (r : Request) :
    (m.serve r).graph.Consistent := by
  cases r with
  | failNext e => exact consistent
  | transact statements => exact consistent_transact consistent statements

theorem consistent_foldl_serve (requests : List Request) {m : Memory}
    (consistent : m.graph.Consistent) : (requests.foldl serve m).graph.Consistent := by
  induction requests generalizing m with
  | nil => exact consistent
  | cons r rest ih => exact ih (consistent_serve consistent r)

/-- After any requests every edge has nodes at both ends, and no two edges have the same ends
and the same label. -/
theorem served_wellFormed (requests : List Request) :
    (∀ e ∈ (served requests).graph.edges,
      (served requests).graph.hasNode e.source = true ∧
        (served requests).graph.hasNode e.destination = true) ∧
    (served requests).graph.edges.Pairwise fun e e' =>
      ¬ (e.source = e'.source ∧ e.destination = e'.destination ∧
        e.relationship = e'.relationship) := by
  have consistent : (served requests).graph.Consistent :=
    consistent_foldl_serve requests Graph.Consistent.empty
  have apart := List.pairwise_map.mp consistent.keys
  refine ⟨consistent.ends, apart.imp ?_⟩
  rintro e e' differ ⟨source, destination, relationship⟩
  have same : e.key = e'.key := by
    rw [Edge.key, Edge.key, source, destination, relationship]
  exact differ same

end RecordGraph.Memory
