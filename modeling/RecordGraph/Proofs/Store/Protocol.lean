import RecordGraph.Proofs.Store.Attempts
import RecordGraph.Proofs.Success
import RecordGraph.Store.Scripted

/-!
# The retry protocol

An execution asks the store for one transaction after another, each with the whole batch, until
one does not fail transiently or no retry is left. The last transaction alone decides the
result. All this holds of any store, whatever its transactions come to.
-/

namespace RecordGraph

namespace Store

/-! ## The outcomes of a batch -/

section Outcomes

variable (store : Store σ) (settings : WriterSettings) (ss : List Statement) (start : σ)

/-- The store after a number of transactions for one batch. -/
def stateAfter : Nat → σ
  | 0 => start
  | n + 1 => ((store.transact ss (stateAfter n)).within settings.timeoutMillis).2

/-- What the transactions for one batch come to, counted from zero. -/
def outcome (n : Nat) : Except StoreError Unit :=
  ((store.transact ss (store.stateAfter settings ss start n)).within settings.timeoutMillis).1

end Outcomes

/-- The transaction that decides an execution: the first that does not fail transiently, or the
last that is allowed. -/
structure Decisive (outcome : Nat → Except StoreError Unit) (retries n : Nat) : Prop where
  allowed : n ≤ retries
  before : ∀ i < n, ∃ text, outcome i = .error (.transient text)
  decides : n = retries ∨ ∀ text, outcome n ≠ .error (.transient text)

/-- Only one transaction decides. -/
theorem Decisive.unique {outcome : Nat → Except StoreError Unit} {retries n m : Nat}
    (here : Decisive outcome retries n) (there : Decisive outcome retries m) : n = m := by
  -- a transaction that decides is not followed by another one
  have last {n m : Nat} (here : Decisive outcome retries n) (there : Decisive outcome retries m) :
      ¬ n < m := by
    intro less
    rcases here.decides with all | decides
    · have allowed := there.allowed
      omega
    · obtain ⟨text, failed⟩ := there.before n less
      exact decides text failed
  have left := last here there
  have right := last there here
  omega

/-- The result of an execution that a transaction decides. -/
def decision (settings : WriterSettings) (n : Nat) :
    Except StoreError Unit → Except GraphError UInt32
  | .ok () => .ok (UInt32.ofNat n)
  | .error (.fatal text) => .error (.store (.fatal text))
  | .error (.transient text) => .error (.retryLimit (settings.maxRetries + 1) (.transient text))

variable {store : Store σ} {settings : WriterSettings} {ss : List Statement} {start : σ}

theorem trial_stateAfter (n : Nat) :
    store.trial settings ss (store.stateAfter settings ss start n) =
      (store.outcome settings ss start n, store.stateAfter settings ss start (n + 1)) :=
  trial_eq_within store settings ss _

/-- Retries follow the outcomes, which are transient failures. -/
theorem Retried.stateAfter {n : Nat} {s : σ} (retried : Retried store settings ss start n s) :
    s = store.stateAfter settings ss start n ∧
      ∀ i < n, ∃ text, store.outcome settings ss start i = .error (.transient text) := by
  induction retried with
  | none => exact ⟨rfl, fun i impossible => absurd impossible (Nat.not_lt_zero i)⟩
  | more before failed ih =>
      rename_i n s next text
      obtain ⟨rfl, transient⟩ := ih
      obtain ⟨outcome, after⟩ := Prod.mk.inj ((trial_stateAfter n).symm.trans failed)
      refine ⟨after.symm, ?_⟩
      intro i earlier
      rcases Nat.lt_succ_iff_lt_or_eq.mp earlier with less | rfl
      · exact transient i less
      · exact ⟨text, outcome⟩

/-- An execution is decided by the first transaction that does not fail transiently, or by the
last that is allowed, and no transaction comes after it. -/
theorem Ended.decided {after : σ} {result : Except GraphError UInt32}
    (ended : Ended store settings ss start result after) :
    ∃ n, Decisive (store.outcome settings ss start) settings.maxRetries.toNat n ∧
      after = store.stateAfter settings ss start (n + 1) ∧
      result = decision settings n (store.outcome settings ss start n) := by
  cases ended with
  | committed retried within last =>
      rename_i n s
      obtain ⟨rfl, transient⟩ := retried.stateAfter
      obtain ⟨outcome, after⟩ := Prod.mk.inj ((trial_stateAfter n).symm.trans last)
      refine ⟨n, ⟨within, transient, .inr ?_⟩, after.symm, ?_⟩
      · intro text impossible
        cases outcome.symm.trans impossible
      · rw [outcome]
        rfl
  | failed retried within last =>
      rename_i n s text
      obtain ⟨rfl, transient⟩ := retried.stateAfter
      obtain ⟨outcome, after⟩ := Prod.mk.inj ((trial_stateAfter n).symm.trans last)
      refine ⟨n, ⟨within, transient, .inr ?_⟩, after.symm, ?_⟩
      · intro text impossible
        cases outcome.symm.trans impossible
      · rw [outcome]
        rfl
  | exhausted retried last =>
      obtain ⟨rfl, transient⟩ := retried.stateAfter
      obtain ⟨outcome, after⟩ := Prod.mk.inj ((trial_stateAfter _).symm.trans last)
      refine ⟨_, ⟨Nat.le_refl _, transient, .inl rfl⟩, after.symm, ?_⟩
      rw [outcome]
      rfl

/-- The store that an execution starts from determines its result and the store it ends in. -/
theorem Ended.unique {after after' : σ} {result result' : Except GraphError UInt32}
    (here : Ended store settings ss start result after)
    (there : Ended store settings ss start result' after') :
    result = result' ∧ after = after' := by
  obtain ⟨n, decisive, rfl, rfl⟩ := here.decided
  obtain ⟨m, decisive', rfl, rfl⟩ := there.decided
  obtain rfl := decisive.unique decisive'
  exact ⟨rfl, rfl⟩

end Store

/-! ## Watching a store -/

/-- A transaction of which less of the store can be seen. -/
def Transaction.map (view : τ → σ) (t : Transaction τ) : Transaction σ :=
  ⟨t.outcome, t.duration, view t.completed, view t.abandoned, t.log⟩

def World.map (view : τ → σ) (w : World τ) : World σ := ⟨view w.store, w.clock, w.log⟩

theorem Transaction.within_map (view : τ → σ) (t : Transaction τ) (limit : Option UInt64) :
    (t.map view).within limit = ((t.within limit).1, view (t.within limit).2) := by
  cases limit with
  | none => rfl
  | some limit =>
      by_cases intime : t.duration ≤ limit.toNat
      · simp only [within, map, intime, ↓reduceIte]
      · simp only [within, map, intime, ↓reduceIte]

namespace Store

section View

variable {outer : Store τ} {inner : Store σ} (view : τ → σ)

/-- An attempt at a store is an attempt at every store that shows less of it. -/
theorem attempt_map
    (same : ∀ ss s, (outer.transact ss s).map view = inner.transact ss (view s))
    (limit : Option UInt64) (ss : List Statement) (w : World τ) :
    inner.attempt limit ss (w.map view) =
      ((outer.attempt limit ss w).1, (outer.attempt limit ss w).2.map view) := by
  have here : inner.transact ss (w.map view).store = (outer.transact ss w.store).map view :=
    (same ss w.store).symm
  rw [attempt_of_transact here, attempt_of_transact rfl, Transaction.within_map]
  cases limit with
  | none => rfl
  | some limit => rfl

theorem attempts_map
    (same : ∀ ss s, (outer.transact ss s).map view = inner.transact ss (view s))
    (settings : WriterSettings) (ss : List Statement) (left : Nat) (retries : UInt32)
    (w : World τ) :
    inner.attempts settings ss left retries (w.map view) =
      ((outer.attempts settings ss left retries w).1,
        (outer.attempts settings ss left retries w).2.map view) := by
  have tried := attempt_map view same settings.timeoutMillis ss
  induction left generalizing retries w with
  | zero =>
      unfold attempts
      rw [tried]
      rcases outer.attempt settings.timeoutMillis ss w with ⟨(text | text) | ⟨⟩, after⟩
      · rfl
      · rfl
      · rfl
  | succ left ih =>
      unfold attempts
      rw [tried]
      rcases outer.attempt settings.timeoutMillis ss w with ⟨(text | text) | ⟨⟩, after⟩
      · exact ih (retries + 1)
          { after.note (.retrying (.transient text) (retries + 1) settings.maxRetries ss.length)
            with clock := after.clock + settings.backoffMillis.toNat }
      · rfl
      · rfl

/-- An execution does not depend on how much of the store can be seen. -/
theorem execute_map
    (same : ∀ ss s, (outer.transact ss s).map view = inner.transact ss (view s))
    (settings : WriterSettings) (ss : List Statement) (w : World τ) :
    inner.execute settings ss (w.map view) =
      ((outer.execute settings ss w).1, (outer.execute settings ss w).2.map view) := by
  unfold execute
  rw [attempts_map view same]
  cases ss.isEmpty with
  | true => rfl
  | false =>
      rcases outer.attempts settings ss settings.maxRetries.toNat 0 w with ⟨e | retries, after⟩
      · rfl
      · rfl

end View

/-- A store that keeps the batches it was asked to carry out, the oldest first. -/
def watched (store : Store σ) : Store (σ × List (List Statement)) where
  transact ss s :=
    let t := store.transact ss s.1
    ⟨t.outcome, t.duration, (t.completed, s.2 ++ [ss]), (t.abandoned, s.2 ++ [ss]), t.log⟩
  fetch statement s :=
    let (rows, next) := store.fetch statement s.1
    (rows, (next, s.2))

variable {store : Store σ} {settings : WriterSettings} {ss : List Statement}

/-- Each transaction of a watched store is one batch more in its list. -/
theorem within_watched (start : σ) (batches : List (List Statement)) (limit : Option UInt64) :
    (store.watched.transact ss (start, batches)).within limit =
      (((store.transact ss start).within limit).1,
        (((store.transact ss start).within limit).2, batches ++ [ss])) := by
  cases limit with
  | none => rfl
  | some limit =>
      by_cases intime : (store.transact ss start).duration ≤ limit.toNat
      · simp only [Transaction.within, watched, intime, ↓reduceIte]
      · simp only [Transaction.within, watched, intime, ↓reduceIte]

theorem stateAfter_watched (start : σ) (batches : List (List Statement)) (n : Nat) :
    store.watched.stateAfter settings ss (start, batches) n =
      (store.stateAfter settings ss start n, batches ++ List.replicate n ss) := by
  induction n with
  | zero => rw [List.replicate_zero, List.append_nil, stateAfter, stateAfter]
  | succ n ih =>
      rw [stateAfter, ih, within_watched, List.replicate_succ', List.append_assoc]
      rfl

theorem outcome_watched (start : σ) (batches : List (List Statement)) :
    store.watched.outcome settings ss (start, batches) = store.outcome settings ss start := by
  funext n
  rw [outcome, stateAfter_watched, within_watched]
  rfl

/-! ## Executions -/

/-- An execution goes the same way whether or not its transactions are watched. -/
theorem execute_watched (store : Store σ) (settings : WriterSettings) (ss : List Statement)
    (w : World σ) :
    store.execute settings ss w =
      ((store.watched.execute settings ss (w.map (·, []))).1,
        (store.watched.execute settings ss (w.map (·, []))).2.map Prod.fst) :=
  execute_map Prod.fst (fun _ _ => rfl) settings ss (w.map (·, []))

/-- The transactions of an execution are asked for up to the one that decides. -/
theorem decided_of_execute (nonempty : ss ≠ []) (w : World σ) :
    ∃ n, Decisive (store.outcome settings ss w.store) settings.maxRetries.toNat n ∧
      (store.watched.execute settings ss (w.map (·, []))).2.store.2 =
        List.replicate (n + 1) ss ∧
      (store.execute settings ss w).1.map Execution.retries =
        decision settings n (store.outcome settings ss w.store n) := by
  rw [execute_watched store]
  cases done : store.watched.execute settings ss (w.map (·, [])) with
  | mk result after =>
      obtain ⟨n, decisive, stored, decided⟩ := (ended_of_execute nonempty done).decided
      change Decisive (store.watched.outcome settings ss (w.store, [])) _ n at decisive
      change after.store = store.watched.stateAfter settings ss (w.store, []) (n + 1) at stored
      change _ = decision settings n (store.watched.outcome settings ss (w.store, []) n) at decided
      rw [outcome_watched] at decisive decided
      rw [stateAfter_watched] at stored
      exact ⟨n, decisive, congrArg Prod.snd stored, decided⟩

/-- The retry protocol. An execution whose transactions are watched goes as it goes unwatched.
Without statements it asks the store for nothing and takes no time. Otherwise it asks for the
whole batch again and again, the last time in the transaction that decides, whose outcome is
the result. -/
theorem execute_protocol (store : Store σ) (settings : WriterSettings) (ss : List Statement)
    (w : World σ) :
    let run := store.execute settings ss w
    let seen := store.watched.execute settings ss (w.map (·, []))
    let outcome := store.outcome settings ss w.store
    (seen.1 = run.1 ∧ seen.2.map Prod.fst = run.2) ∧
    (ss = [] → run = (.ok ⟨.zero, 0⟩, w) ∧ seen.2.store.2 = []) ∧
    (ss ≠ [] → ∃ n, Decisive outcome settings.maxRetries.toNat n ∧
      seen.2.store.2 = List.replicate (n + 1) ss ∧
      match outcome n with
      | .ok () => ∃ execution, run.1 = .ok execution ∧ execution.retries.toNat = n
      | .error (.fatal text) => run.1 = .error (.store (.fatal text))
      | .error (.transient text) => n = settings.maxRetries.toNat ∧
          run.1 = .error (.retryLimit (settings.maxRetries + 1) (.transient text))) := by
  intro run seen outcome
  refine ⟨?_, ?_, ?_⟩
  · have unwatched : run = (seen.1, seen.2.map Prod.fst) := execute_watched store settings ss w
    rw [unwatched]
    exact ⟨rfl, rfl⟩
  · rintro rfl
    exact ⟨rfl, rfl⟩
  · intro nonempty
    obtain ⟨n, decisive, batches, decided⟩ := decided_of_execute nonempty w
    change run.1.map Execution.retries = decision settings n (outcome n) at decided
    refine ⟨n, decisive, batches, ?_⟩
    rcases come : outcome n with (text | text) | ⟨⟩
    · rw [come] at decided
      have last : n = settings.maxRetries.toNat := by
        rcases decisive.decides with last | decides
        · exact last
        · exact absurd come (decides text)
      exact ⟨last, map_eq_error_iff.mp decided⟩
    · rw [come] at decided
      exact map_eq_error_iff.mp decided
    · rw [come] at decided
      obtain ⟨execution, ok, retries⟩ := map_eq_ok_iff.mp decided
      refine ⟨execution, ok, ?_⟩
      rw [retries]
      exact UInt32.toNat_ofNat_of_lt'
        (Nat.lt_of_le_of_lt decisive.allowed settings.maxRetries.toNat_lt)

/-- The first transaction fails and the second takes too long, so the third decides. -/
theorem execute_protocol_slow :
    let merge (op : Operation) : Statement := ⟨op, op.text, []⟩
    let ss := [merge (.mergeNode "person"), merge (.mergeNode "article")]
    let entries := [⟨.error (.transient "deadlock"), 0⟩, ⟨.ok (), 50⟩, ⟨.ok (), 0⟩]
    let w : World Script := .ofStore ⟨entries, .ok [], []⟩
    ss ≠ [] ∧
      (Script.store.watched.execute ⟨3, some 10, 5⟩ ss (w.map (·, []))).2.store.2 = [ss, ss, ss] ∧
      ∃ execution, (Script.store.execute ⟨3, some 10, 5⟩ ss w).1 = .ok execution ∧
        execution.retries.toNat = 2 := by
  intro merge ss entries w
  have nonempty : ss ≠ [] := List.cons_ne_nil _ _
  have third : Decisive (Script.store.outcome ⟨3, some 10, 5⟩ ss w.store) 3 2 := by
    refine ⟨by decide, ?_, .inr ?_⟩
    · intro i earlier
      match i with
      | 0 => exact ⟨_, rfl⟩
      | 1 => exact ⟨_, rfl⟩
    · intro text impossible
      cases impossible
  have succeeds : Script.store.outcome ⟨3, some 10, 5⟩ ss w.store 2 = .ok () := rfl
  obtain ⟨n, decisive, batches, ends⟩ :=
    (execute_protocol Script.store ⟨3, some 10, 5⟩ ss w).2.2 nonempty
  obtain rfl := decisive.unique third
  rw [succeeds] at ends
  exact ⟨nonempty, batches, ends⟩

end Store

end RecordGraph
