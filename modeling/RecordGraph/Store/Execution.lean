import RecordGraph.Graph.Error
import RecordGraph.Log
import RecordGraph.Settings.Basic

/-!
# Executing batches

A batch of statements is one transaction. A transient failure discards the attempt, and the
whole batch is tried again, a limited number of times; any other failure ends it. Time is a
clock in milliseconds that the store and the pauses between attempts advance.
-/

namespace RecordGraph

/-- A store in its present state, with the clock and the log. -/
structure World (σ : Type) where
  store : σ
  clock : Nat
  log : List LogEvent

namespace World

def ofStore (store : σ) : World σ := ⟨store, 0, []⟩

def note (w : World σ) (e : LogEvent) : World σ := { w with log := w.log ++ [e] }

def notes (w : World σ) (es : List LogEvent) : World σ := { w with log := w.log ++ es }

end World

/-- What a committed batch took. -/
structure Execution where
  elapsed : Duration
  retries : UInt32
deriving DecidableEq, Repr

namespace Store

/-- One attempt. One that takes longer than the limit is given up as a transient failure,
although the store may have carried it out by then. -/
def attempt (store : Store σ) (limit : Option UInt64) (statements : List Statement)
    (w : World σ) : Except StoreError Unit × World σ :=
  let t := store.transact statements w.store
  let w := w.notes t.log
  match limit with
  | none => (t.outcome, { w with store := t.completed, clock := w.clock + t.duration })
  | some limit =>
      if t.duration ≤ limit.toNat then
        (t.outcome, { w with store := t.completed, clock := w.clock + t.duration })
      else
        (.error (.transient ("transaction exceeded " ++ toString limit.toNat ++ "ms")),
          { w with store := t.abandoned, clock := w.clock + limit.toNat })

/-- Attempts a batch until it succeeds, fails for good, or `left` more attempts have failed.
The count of retries wraps at 32 bits. -/
def attempts (store : Store σ) (settings : WriterSettings) (statements : List Statement) :
    Nat → UInt32 → World σ → Except GraphError UInt32 × World σ
  | left, retries, w =>
      match store.attempt settings.timeoutMillis statements w with
      | (.ok (), w) => (.ok retries, w)
      | (.error (.fatal text), w) =>
          (.error (.store (.fatal text)), w.note (.writeFailed (.fatal text)))
      | (.error (.transient text), w) =>
          match left with
          | 0 =>
              (.error (.retryLimit (retries + 1) (.transient text)),
                w.note (.exhausted (.transient text) (retries + 1)))
          | left + 1 =>
              let w := w.note
                (.retrying (.transient text) (retries + 1) settings.maxRetries statements.length)
              attempts store settings statements left (retries + 1)
                { w with clock := w.clock + settings.backoffMillis.toNat }
termination_by structural left => left

/-- Executes a batch. An empty one does not reach the store. -/
def execute (store : Store σ) (settings : WriterSettings) (statements : List Statement)
    (w : World σ) : Except GraphError Execution × World σ :=
  if statements.isEmpty then (.ok ⟨.zero, 0⟩, w)
  else
    match store.attempts settings statements settings.maxRetries.toNat 0 w with
    | (.ok retries, after) =>
        (.ok ⟨.ofMillis (UInt64.ofNat (after.clock - w.clock)), retries⟩, after)
    | (.error e, after) => (.error e, after)

end Store

end RecordGraph
