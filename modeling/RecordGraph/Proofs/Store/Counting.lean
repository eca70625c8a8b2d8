import RecordGraph.Bolt.Server
import RecordGraph.Proofs.Store.Protocol

/-!
# The count of retries

An execution counts its retries in a word of 32 bits, against a bound of 32 bits. The count is
the number of transactions so far as long as it is compared with the bound. Only the report that
no retry is left adds one to the bound itself, and that is zero after the largest bound of all.
-/

namespace RecordGraph

namespace Store

variable {store : Store σ} {settings : WriterSettings} {ss : List Statement} {start : σ}

/-- The turns of the loop that attempts a batch: how many transactions came before, the count of
retries, and the store. Another turn comes after a transient failure while the count is below
its bound. -/
inductive Turn (store : Store σ) (settings : WriterSettings) (ss : List Statement) (start : σ) :
    Nat → UInt32 → σ → Prop
  | first : Turn store settings ss start 0 0 start
  | again {n : Nat} {retries : UInt32} {s next : σ} {text : String}
      (turn : Turn store settings ss start n retries s)
      (failed : store.trial settings ss s = (.error (.transient text), next))
      (below : retries < settings.maxRetries) :
      Turn store settings ss start (n + 1) (retries + 1) next

/-- Below another number, one more is no overflow. -/
theorem toNat_add_one_of_lt {count bound : UInt32} (below : count < bound) :
    (count + 1).toNat = count.toNat + 1 := by
  have less := UInt32.lt_iff_toNat_lt.mp below
  have fits := bound.toNat_lt
  rw [UInt32.toNat_add, UInt32.toNat_one, Nat.mod_eq_of_lt (by omega)]

/-- One more than a number is reported as it is, except after the largest one. -/
theorem toNat_add_one_eq_iff (count : UInt32) :
    (count + 1).toNat = count.toNat + 1 ↔ count.toNat + 1 < UInt32.size := by
  have fits := count.toNat_lt
  have size : UInt32.size = 2 ^ 32 := rfl
  rw [UInt32.toNat_add, UInt32.toNat_one, size]
  omega

namespace Turn

variable {n : Nat} {retries : UInt32} {s : σ}

/-- At every turn the count is the number of transactions before it. -/
theorem counted (turn : Turn store settings ss start n retries s) : retries.toNat = n := by
  induction turn with
  | first => rfl
  | again turn failed below ih => rw [toNat_add_one_of_lt below, ih]

theorem allowed (turn : Turn store settings ss start n retries s) :
    n ≤ settings.maxRetries.toNat := by
  cases turn with
  | first => exact Nat.zero_le _
  | again turn failed below =>
      have less := UInt32.lt_iff_toNat_lt.mp below
      rwa [turn.counted] at less

end Turn

/-- As many transient failures as there may be lead to as many turns. -/
theorem turn_of_transient {n : Nat} (allowed : n ≤ settings.maxRetries.toNat)
    (transient : ∀ i < n, ∃ text, store.outcome settings ss start i = .error (.transient text)) :
    Turn store settings ss start n (UInt32.ofNat n) (store.stateAfter settings ss start n) := by
  induction n with
  | zero => exact .first
  | succ n ih =>
      obtain ⟨text, outcome⟩ := transient n (Nat.lt_succ_self n)
      have turn := ih (Nat.le_of_succ_le allowed) fun i earlier =>
        transient i (Nat.lt_succ_of_lt earlier)
      have below : UInt32.ofNat n < settings.maxRetries := by
        rw [UInt32.lt_iff_toNat_lt, turn.counted]
        exact allowed
      have failed := @trial_stateAfter _ store settings ss start n
      rw [outcome] at failed
      rw [UInt32.ofNat_add]
      exact turn.again failed below

/-- What an execution makes of the transaction of its last turn. -/
def Concluded (settings : WriterSettings) (retries : UInt32) (result : Except GraphError UInt32) :
    Except StoreError Unit → Prop
  | .ok () => result = .ok retries
  | .error (.fatal text) => result = .error (.store (.fatal text))
  | .error (.transient text) =>
      retries = settings.maxRetries ∧
        result = .error (.retryLimit (retries + 1) (.transient text))

/-- An execution is the loop: it asks for one transaction at each turn, and the transaction of
the last turn decides. -/
theorem turn_of_execute (nonempty : ss ≠ []) (w : World σ) :
    ∃ n retries s, Turn store settings ss w.store n retries s ∧
      (store.watched.execute settings ss (w.map (·, []))).2.store.2.length = n + 1 ∧
      Concluded settings retries ((store.execute settings ss w).1.map Execution.retries)
        (store.trial settings ss s).1 := by
  obtain ⟨n, decisive, batches, decided⟩ := @decided_of_execute _ store settings ss nonempty w
  refine ⟨n, _, _, turn_of_transient decisive.allowed decisive.before, ?_, ?_⟩
  · rw [batches, List.length_replicate]
  · rw [trial_stateAfter, decided]
    rcases come : store.outcome settings ss w.store n with (text | text) | ⟨⟩
    · have last : n = settings.maxRetries.toNat := by
        rcases decisive.decides with last | decides
        · exact last
        · exact absurd come (decides text)
      have bound : UInt32.ofNat n = settings.maxRetries := by
        rw [last, UInt32.ofNat_toNat]
      refine ⟨bound, ?_⟩
      rw [bound]
      rfl
    · rfl
    · rfl

/-- The count of retries is the real one. At every turn it is the number of transactions before,
so to count another retry is no overflow. A result has counted one transaction less than there
were. When no retry is left there were as many transactions as the bound allows, one more than
the bound, and they are reported modulo the words of 32 bits: as they are, just if the bound is
not the largest word. -/
theorem execute_counted (store : Store σ) (settings : WriterSettings) (ss : List Statement)
    (w : World σ) (nonempty : ss ≠ []) :
    let run := store.execute settings ss w
    let calls := (store.watched.execute settings ss (w.map (·, []))).2.store.2.length
    (∃ n retries s, Turn store settings ss w.store n retries s ∧ calls = n + 1 ∧
      Concluded settings retries (run.1.map Execution.retries) (store.trial settings ss s).1) ∧
    (∀ n retries s, Turn store settings ss w.store n retries s →
      retries.toNat = n ∧ n ≤ settings.maxRetries.toNat ∧
        (retries < settings.maxRetries → (retries + 1).toNat = retries.toNat + 1)) ∧
    (∀ execution, run.1 = .ok execution → execution.retries.toNat + 1 = calls) ∧
    ∀ attempts e, run.1 = .error (.retryLimit attempts e) →
      calls = settings.maxRetries.toNat + 1 ∧ attempts.toNat = calls % UInt32.size ∧
        (attempts.toNat = calls ↔ settings.maxRetries.toNat + 1 < UInt32.size) := by
  intro run calls
  obtain ⟨n, retries, s, turn, made, concluded⟩ :=
    @turn_of_execute _ store settings ss nonempty w
  change calls = n + 1 at made
  change Concluded settings retries (run.1.map Execution.retries) _ at concluded
  have counted := turn.counted
  refine ⟨⟨n, retries, s, turn, made, concluded⟩, ?_, ?_, ?_⟩
  · intro n retries s turn
    exact ⟨turn.counted, turn.allowed, toNat_add_one_of_lt⟩
  · intro execution succeeded
    rw [succeeded] at concluded
    rcases come : (store.trial settings ss s).1 with (text | text) | ⟨⟩
    · rw [come] at concluded
      cases concluded.2
    · rw [come] at concluded
      cases concluded
    · rw [come] at concluded
      have same : execution.retries = retries := Except.ok.inj concluded
      rw [same, counted, made]
  · intro attempts e failed
    rw [failed] at concluded
    rcases come : (store.trial settings ss s).1 with (text | text) | ⟨⟩
    · rw [come] at concluded
      obtain ⟨rfl, reported⟩ := concluded
      obtain rfl : attempts = settings.maxRetries + 1 :=
        (GraphError.retryLimit.inj (Except.error.inj reported)).1
      rw [made, ← counted, toNat_add_one_eq_iff]
      exact ⟨rfl, UInt32.toNat_add _ _, Iff.rfl⟩
    · rw [come] at concluded
      cases concluded
    · rw [come] at concluded
      cases concluded

/-- With one retry, a batch that fails twice is reported with two attempts. -/
theorem execute_counted_twice :
    let merge (op : Operation) : Statement := ⟨op, op.text, []⟩
    let ss := [merge (.mergeNode "person")]
    let deadlock : ScriptEntry := ⟨.error (.transient "deadlock"), 0⟩
    let w : World Script := .ofStore ⟨[deadlock, deadlock], .ok [], []⟩
    ss ≠ [] ∧ ∃ attempts e,
      (Script.store.execute ⟨1, none, 0⟩ ss w).1 = .error (.retryLimit attempts e) ∧
      attempts.toNat = 2 ∧
      (Script.store.watched.execute ⟨1, none, 0⟩ ss (w.map (·, []))).2.store.2.length = 2 := by
  intro merge ss deadlock w
  have nonempty : ss ≠ [] := List.cons_ne_nil _ _
  obtain ⟨-, -, -, exhausted⟩ := execute_counted Script.store ⟨1, none, 0⟩ ss w nonempty
  obtain ⟨calls, -, reported⟩ := exhausted 2 (.transient "deadlock") rfl
  exact ⟨nonempty, 2, .transient "deadlock", rfl, rfl, calls⟩

/-! ## The largest bound -/

/-- A store whose transactions all fail for the time being and leave it as it is. -/
structure Down (store : Store σ) (s : σ) (text : String) : Prop where
  outcome : ∀ ss, (store.transact ss s).outcome = .error (.transient text)
  completed : ∀ ss, (store.transact ss s).completed = s

theorem Down.stateAfter {text : String} (down : Down store start text)
    (patient : settings.timeoutMillis = none) (n : Nat) :
    store.stateAfter settings ss start n = start := by
  induction n with
  | zero => rfl
  | succ n ih =>
      rw [Store.stateAfter, ih, patient]
      exact down.completed ss

/-- A store that is down for good uses up all retries, and one is added to their bound. -/
theorem Down.exhausted {text : String} (down : Down store start text)
    (patient : settings.timeoutMillis = none) (nonempty : ss ≠ []) :
    (store.execute settings ss (.ofStore start)).1 =
        .error (.retryLimit (settings.maxRetries + 1) (.transient text)) ∧
      (store.watched.execute settings ss (.ofStore (start, []))).2.store.2.length =
        settings.maxRetries.toNat + 1 := by
  have fails (n : Nat) : store.outcome settings ss start n = .error (.transient text) := by
    rw [Store.outcome, down.stateAfter patient, patient]
    exact down.outcome ss
  obtain ⟨n, decisive, batches, decided⟩ :=
    @decided_of_execute _ store settings ss nonempty (.ofStore start)
  have last : n = settings.maxRetries.toNat := by
    rcases decisive.decides with last | decides
    · exact last
    · exact absurd (fails n) (decides text)
  refine ⟨map_eq_error_iff.mp (decided.trans ?_), ?_⟩
  · exact congrArg (decision settings n) (fails n)
  · refine (congrArg List.length batches).trans ?_
    rw [List.length_replicate, last]

theorem down_of_unreachable :
    Down Bolt.Server.driver.store (Bolt.Server.start .default false [] [])
      "an IO error occurred" where
  outcome _ := rfl
  completed _ := rfl

/-- With the largest bound, a server that cannot be reached is asked for as many transactions as
there are words of 32 bits, and no attempt is reported. -/
theorem attempts_wrap :
    let merge (op : Operation) : Statement := ⟨op, op.text, []⟩
    let ss := [merge (.mergeNode "person")]
    let server := Bolt.Server.start .default false [] []
    let store := Bolt.Server.driver.store
    (store.execute ⟨0xffffffff, none, 0⟩ ss (.ofStore server)).1 =
        .error (.retryLimit 0 (.transient "an IO error occurred")) ∧
      (store.watched.execute ⟨0xffffffff, none, 0⟩ ss (.ofStore (server, []))).2.store.2.length =
        0x100000000 := by
  intro merge ss server store
  have wraps : (0xffffffff : UInt32) + 1 = 0 := by decide
  have many : (0xffffffff : UInt32).toNat + 1 = 0x100000000 := by decide
  obtain ⟨failed, calls⟩ := @Down.exhausted _ store ⟨0xffffffff, none, 0⟩ ss server _
    down_of_unreachable rfl (List.cons_ne_nil _ _)
  rw [failed, calls, wraps, many]
  exact ⟨rfl, rfl⟩

end Store

end RecordGraph
