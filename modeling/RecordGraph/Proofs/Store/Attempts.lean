import RecordGraph.Store.Execution

/-!
# How the execution of a batch ends

An execution is a number of transient failures, at most as many as there are retries, and
one attempt more. What an attempt does depends on the store alone, so an execution is
described by the states of the store between the attempts.
-/

namespace RecordGraph

namespace Transaction

/-- What can be seen of a transaction within a limit. One that takes longer has failed for the
time being, whatever the store has made of it. -/
def within (t : Transaction σ) : Option UInt64 → Except StoreError Unit × σ
  | none => (t.outcome, t.completed)
  | some limit =>
      if t.duration ≤ limit.toNat then (t.outcome, t.completed)
      else
        (.error (.transient ("transaction exceeded " ++ toString limit.toNat ++ "ms")),
          t.abandoned)

/-- How long one waits for a transaction. -/
def awaited (t : Transaction σ) : Option UInt64 → Nat
  | none => t.duration
  | some limit => min t.duration limit.toNat

end Transaction

namespace Store

theorem attempt_of_transact {store : Store σ} {statements : List Statement} {w : World σ}
    {t : Transaction σ} (asked : store.transact statements w.store = t) (limit : Option UInt64) :
    store.attempt limit statements w =
      ((t.within limit).1, ⟨(t.within limit).2, w.clock + t.awaited limit, w.log ++ t.log⟩) := by
  unfold attempt Transaction.within Transaction.awaited
  rw [asked]
  cases limit with
  | none => rfl
  | some limit =>
      by_cases intime : t.duration ≤ limit.toNat
      · simp only [World.notes, intime, ↓reduceIte, Nat.min_eq_left]
      · simp only [World.notes, intime, ↓reduceIte, Nat.min_eq_right (Nat.le_of_not_le intime)]

/-- What one attempt comes to, and the store after it. -/
def trial (store : Store σ) (settings : WriterSettings) (statements : List Statement) (s : σ) :
    Except StoreError Unit × σ :=
  let (outcome, w) := store.attempt settings.timeoutMillis statements (.ofStore s)
  (outcome, w.store)

theorem trial_eq_within (store : Store σ) (settings : WriterSettings)
    (statements : List Statement) (s : σ) :
    store.trial settings statements s =
      (store.transact statements s).within settings.timeoutMillis := by
  unfold trial
  rw [attempt_of_transact rfl]
  rfl

theorem attempt_eq_trial (store : Store σ) (settings : WriterSettings)
    (statements : List Statement) (w : World σ) :
    ((store.attempt settings.timeoutMillis statements w).1,
        (store.attempt settings.timeoutMillis statements w).2.store) =
      store.trial settings statements w.store := by
  rw [attempt_of_transact rfl, trial_eq_within]

variable {store : Store σ} {settings : WriterSettings} {statements : List Statement}

theorem trial_of_attempt {w after : World σ} {outcome : Except StoreError Unit}
    (done : store.attempt settings.timeoutMillis statements w = (outcome, after)) :
    store.trial settings statements w.store = (outcome, after.store) := by
  rw [← attempt_eq_trial, done]

/-- A number of transient failures leads from one state of the store to another. -/
inductive Retried (store : Store σ) (settings : WriterSettings) (statements : List Statement)
    (start : σ) : Nat → σ → Prop
  | none : Retried store settings statements start 0 start
  | more {n : Nat} {s next : σ} {text : String}
      (before : Retried store settings statements start n s)
      (failed : store.trial settings statements s = (.error (.transient text), next)) :
      Retried store settings statements start (n + 1) next

/-- The three ways in which an execution ends. -/
inductive Ended (store : Store σ) (settings : WriterSettings) (statements : List Statement)
    (start : σ) : Except GraphError UInt32 → σ → Prop
  | committed {n : Nat} {s after : σ} (retried : Retried store settings statements start n s)
      (within : n ≤ settings.maxRetries.toNat)
      (last : store.trial settings statements s = (.ok (), after)) :
      Ended store settings statements start (.ok (UInt32.ofNat n)) after
  | failed {n : Nat} {s after : σ} {text : String}
      (retried : Retried store settings statements start n s)
      (within : n ≤ settings.maxRetries.toNat)
      (last : store.trial settings statements s = (.error (.fatal text), after)) :
      Ended store settings statements start (.error (.store (.fatal text))) after
  | exhausted {s after : σ} {text : String}
      (retried : Retried store settings statements start settings.maxRetries.toNat s)
      (last : store.trial settings statements s = (.error (.transient text), after)) :
      Ended store settings statements start
        (.error (.retryLimit (settings.maxRetries + 1) (.transient text))) after

/-- The attempts that are left continue the failures so far. -/
theorem Retried.attempts {start : σ} {n left : Nat} {w after : World σ}
    {result : Except GraphError UInt32}
    (retried : Retried store settings statements start n w.store)
    (budget : n + left = settings.maxRetries.toNat)
    (done : store.attempts settings statements left (UInt32.ofNat n) w = (result, after)) :
    Ended store settings statements start result after.store := by
  induction left generalizing n w with
  | zero =>
      unfold Store.attempts at done
      split at done
      · rename_i tried
        cases done
        exact .committed retried (by omega) (trial_of_attempt tried)
      · rename_i tried
        have last := trial_of_attempt tried
        cases done
        exact .failed retried (by omega) last
      · rename_i tried
        have last := trial_of_attempt tried
        cases done
        obtain rfl : n = settings.maxRetries.toNat := by omega
        rw [UInt32.ofNat_toNat]
        exact .exhausted retried last
  | succ left ih =>
      unfold Store.attempts at done
      split at done
      · rename_i tried
        cases done
        exact .committed retried (by omega) (trial_of_attempt tried)
      · rename_i tried
        have last := trial_of_attempt tried
        cases done
        exact .failed retried (by omega) last
      · rename_i tried
        have failed := trial_of_attempt tried
        have counted : UInt32.ofNat n + 1 = UInt32.ofNat (n + 1) := by
          rw [UInt32.ofNat_add]
          rfl
        rw [counted] at done
        refine ih ?_ ?_ done
        · exact retried.more failed
        · omega

/-- The execution of a batch that is not empty ends in one of the three ways. -/
theorem ended_of_execute {w after : World σ} {result : Except GraphError Execution}
    (nonempty : statements ≠ [])
    (done : store.execute settings statements w = (result, after)) :
    Ended store settings statements w.store (result.map Execution.retries) after.store := by
  unfold execute at done
  rw [List.isEmpty_eq_false_iff.mpr nonempty, if_neg Bool.false_ne_true] at done
  split at done
  · rename_i tried
    cases done
    exact Retried.none.attempts (Nat.zero_add _) tried
  · rename_i tried
    cases done
    exact Retried.none.attempts (Nat.zero_add _) tried

end Store

end RecordGraph
