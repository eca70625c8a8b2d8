import RecordGraph.Proofs.Store.Transactions

/-!
# Failures in line

What a batch comes to whose statements can be carried out is decided by the failures in line
and the number of retries alone. It is committed if the line is short enough and transient
throughout, and otherwise it ends with the first failure that cannot be retried.
-/

namespace RecordGraph.Memory

/-- A batch that can be carried out fails with the first failure in line only. -/
theorem head?_failures_of_transact {statements : List Statement}
    (total : ∀ g : Graph, ∃ g', g.applyAll statements = .ok g') {m after : Memory}
    {e : StoreError} (done : transact statements m = (.error e, after)) :
    m.failures.head? = some e := by
  obtain ⟨whole, applied⟩ := total m.graph
  unfold transact at done
  split at done
  · cases done
  · rename_i failed
    cases done
    unfold attempt at failed
    split at failed
    · rename_i struck s later inLine
      obtain ⟨next, first, -⟩ := bind_eq_ok_iff.mp applied
      rw [first] at failed
      cases failed
      exact inLine
    · rw [applied] at failed
      cases failed

/-- What a line of failures makes of a batch with a number of retries. -/
inductive Verdict (retries : Nat) : List StoreError → Except GraphError Unit → Prop
  | committed {line : List StoreError} (short : line.length ≤ retries)
      (transient : ∀ e ∈ line, e.isTransient = true) : Verdict retries line (.ok ())
  | failed {struck rest : List StoreError} {text : String} (short : struck.length ≤ retries)
      (transient : ∀ e ∈ struck, e.isTransient = true) :
      Verdict retries (struck ++ .fatal text :: rest) (.error (.store (.fatal text)))
  | exhausted {struck rest : List StoreError} {attempts : UInt32} {last : StoreError}
      (long : struck.length = retries) (transient : ∀ e ∈ struck ++ [last], e.isTransient = true) :
      Verdict retries (struck ++ last :: rest) (.error (.retryLimit attempts last))

theorem verdict_of_ended {settings : WriterSettings} {statements : List Statement}
    (nonempty : statements ≠ [])
    (total : ∀ g : Graph, ∃ g', g.applyAll statements = .ok g') {m after : Memory}
    {result : Except GraphError UInt32}
    (ended : store.Ended settings statements m result after) :
    Verdict settings.maxRetries.toNat m.failures (result.map fun _ => ()) := by
  -- the failures that struck before the last attempt, and the one that struck it
  have line {n : Nat} {s : Memory} {e : StoreError}
      (retried : store.Retried settings statements m n s)
      (last : store.trial settings statements s = (.error e, after)) :
      ∃ struck rest, m.failures = struck ++ e :: rest ∧ struck.length = n ∧
        ∀ x ∈ struck, x.isTransient = true := by
    obtain ⟨struck, count, transient, before, -⟩ := eq_of_retried retried
    rw [trial_eq_transact] at last
    obtain ⟨rest, first⟩ := List.head?_eq_some_iff.mp (head?_failures_of_transact total last)
    exact ⟨struck, rest, before.trans (congrArg _ first), count, transient⟩
  cases ended with
  | committed retried within last =>
      rename_i n s
      have once := committed_of_ended nonempty (.committed retried within last)
      have counts : (UInt32.ofNat n).toNat = n :=
        UInt32.toNat_ofNat_of_lt' (Nat.lt_of_le_of_lt within settings.maxRetries.toNat_lt)
      have short : m.failures.length ≤ settings.maxRetries.toNat := by
        rw [once.count, counts]
        exact within
      exact .committed short once.transient
  | failed retried within last =>
      obtain ⟨struck, rest, same, count, transient⟩ := line retried last
      rw [same]
      exact .failed (count ▸ within) transient
  | exhausted retried last =>
      obtain ⟨struck, rest, same, count, transient⟩ := line retried last
      rw [same]
      refine .exhausted count ?_
      intro e member
      rcases List.mem_append.mp member with before | atLast
      · exact transient e before
      · exact List.mem_singleton.mp atLast ▸ rfl

/-- What the answer of a call says of the failures that were in line. -/
structure Answers (retries : Nat) (line : List StoreError) (result : Except GraphError Unit) :
    Prop where
  /-- The call succeeds if the line is transient and not longer than the retries last. -/
  succeeds : result = .ok () ↔
    line.length ≤ retries ∧ ∀ e ∈ line, e.isTransient = true
  /-- The call gives up if all its attempts meet transient failures. -/
  givesUp : (∃ attempts last, result = .error (.retryLimit attempts last)) ↔
    retries + 1 ≤ line.length ∧ ∀ e ∈ line.take (retries + 1), e.isTransient = true
  /-- Otherwise it fails with the first failure in line that is not transient. -/
  otherwise : result = .ok () ∨ (∃ attempts last, result = .error (.retryLimit attempts last)) ∨
    ∃ e, line.find? (fun e => !e.isTransient) = some e ∧ result = .error (.store e)

theorem take_line {struck : List StoreError} {n : Nat} (short : struck.length ≤ n)
    (e : StoreError) (rest : List StoreError) :
    (struck ++ e :: rest).take (n + 1) = struck ++ e :: rest.take (n - struck.length) := by
  have left : n + 1 - struck.length = n - struck.length + 1 := by omega
  rw [List.take_append, List.take_of_length_le (Nat.le_succ_of_le short), left,
    List.take_succ_cons]

/-- The first failure that is not transient comes after transient ones. -/
theorem find?_line {struck : List StoreError} (transient : ∀ e ∈ struck, e.isTransient = true)
    (text : String) (rest : List StoreError) :
    (struck ++ .fatal text :: rest).find? (fun e => !e.isTransient) = some (.fatal text) := by
  have before : struck.find? (fun e => !e.isTransient) = none := by
    rw [List.find?_eq_none]
    intro e member
    rw [transient e member]
    decide
  rw [List.find?_append, before]
  rfl

theorem Verdict.answers {retries : Nat} {line : List StoreError}
    {result : Except GraphError Unit} (verdict : Verdict retries line result) :
    Answers retries line result := by
  cases verdict with
  | committed short transient =>
      constructor
      · exact ⟨fun _ => ⟨short, transient⟩, fun _ => rfl⟩
      · constructor
        · rintro ⟨attempts, last, impossible⟩
          cases impossible
        · rintro ⟨long, -⟩
          omega
      · exact .inl rfl
  | failed short transient =>
      rename_i struck rest text
      constructor
      · constructor
        · intro impossible
          cases impossible
        · rintro ⟨-, all⟩
          have fatal := all (.fatal text) (by simp)
          cases fatal
      · constructor
        · rintro ⟨attempts, last, impossible⟩
          cases impossible
        · rintro ⟨-, all⟩
          rw [take_line short] at all
          have fatal := all (.fatal text) (by simp)
          cases fatal
      · exact .inr (.inr ⟨.fatal text, find?_line transient text rest, rfl⟩)
  | exhausted long transient =>
      rename_i struck rest attempts last
      constructor
      · constructor
        · intro impossible
          cases impossible
        · rintro ⟨short, -⟩
          rw [List.length_append, List.length_cons] at short
          omega
      · constructor
        · rintro -
          rw [take_line (Nat.le_of_eq long), List.length_append, List.length_cons, long,
            Nat.sub_self, List.take_zero]
          exact ⟨by omega, transient⟩
        · intro _
          exact ⟨attempts, last, rfl⟩
      · exact .inr (.inl ⟨attempts, last, rfl⟩)

end RecordGraph.Memory
