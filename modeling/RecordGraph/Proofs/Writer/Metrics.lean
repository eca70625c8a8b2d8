import Mathlib.Data.List.Forall2
import RecordGraph.Proofs.Fanout.Delivery
import RecordGraph.Proofs.Store.Protocol
import RecordGraph.Proofs.Writer.Runs

/-!
# What listeners hear of calls

A call that succeeds is told to every listener once, and no other call is told. What the
listeners do on it changes nothing for the calls and the store, so a session of calls with a
store in memory is told in full and comes to the same with any listeners.
-/

namespace RecordGraph

/-- The store determines how a call ends. -/
theorem WriteCall.Outcome.unique {w : Writer σ} {call : WriteCall} {start after after' : σ}
    {result result' : Except GraphError Unit} (here : Outcome w call start result after)
    (there : Outcome w call start result' after') : result = result' ∧ after = after' := by
  cases here with
  | refused built =>
      cases there with
      | refused again =>
          cases built.symm.trans again
          exact ⟨rfl, rfl⟩
      | idle again => cases built.symm.trans again
      | executed again nonempty ended => cases built.symm.trans again
  | idle built =>
      cases there with
      | refused again => cases built.symm.trans again
      | idle again => exact ⟨rfl, rfl⟩
      | executed again nonempty ended =>
          cases built.symm.trans again
          exact absurd rfl nonempty
  | executed built nonempty ended =>
      cases there with
      | refused again => cases built.symm.trans again
      | idle again =>
          cases built.symm.trans again
          exact absurd rfl nonempty
      | executed again _ endedAgain =>
          cases built.symm.trans again
          obtain ⟨rfl, rfl⟩ := ended.unique endedAgain
          exact ⟨rfl, rfl⟩

/-- The listeners once their lines have gone to the log of the program. -/
def Fanout.drained (f : Fanout ν) : Fanout ν := { f with log := [] }

namespace Memory

/-- A step of a session with a store in memory. -/
inductive Step
  | failNext (e : StoreError)
  | call (call : WriteCall)

/-- A call that was made, with its result and the number of transactions that the store had
begun by then. -/
structure Receipt where
  call : WriteCall
  result : Except GraphError Unit
  before : Nat
  after : Nat

/-- What an event says of the call that it reports. -/
structure Receipt.Reported (r : Receipt) (event : MetricEvent) : Prop where
  kind : event.kind = r.call.kind
  count : event.count = r.call.count
  /-- Without records there is no transaction, and nothing to report of one. -/
  idle : r.call.count = 0 → r.after = r.before ∧ event = .empty r.call.kind
  /-- All transactions but the last were repeated. -/
  repeated : r.call.count ≠ 0 → r.after = r.before + event.retries.toNat + 1

/-- What the listeners meet with on a call. If it succeeds, one event that reports it is
delivered to them, and otherwise none of them is called. -/
inductive Receipt.Heard (r : Receipt) (f : Fanout ν) : List MetricEvent → Fanout ν → Prop
  | nothing {e : GraphError} (failed : r.result = .error e) : r.Heard f [] f
  | told {event : MetricEvent} {rs : List (Reaction ν (Listener ν))} {g : Fanout ν}
      (worked : r.result = .ok ()) (reported : r.Reported event)
      (delivered : f.drained.Delivered event rs g) : r.Heard f [event] g.drained

/-- Takes the steps one after another. Before a call each listener may have come to react in
another way, which depends on its place and on the number of steps so far. -/
def session (w : Writer Memory) (turn : Nat → Nat → Listener ν → Listener ν) :
    Nat → List Step → Scene Memory ν → List Receipt × Scene Memory ν
  | _, [], s => ([], s)
  | time, .failNext e :: rest, s =>
      let world := { s.world with store := s.world.store.failNext e }
      session w turn (time + 1) rest { s with world := world }
  | time, .call call :: rest, s =>
      let done := call.run w { s with fanout := s.fanout.changed (turn time) }
      let later := session w turn (time + 1) rest done.2
      let receipt : Receipt :=
        ⟨call, done.1, s.world.store.transactions, done.2.world.store.transactions⟩
      (receipt :: later.1, later.2)

/-- What the listeners meet with in a session, call by call: with each call comes its receipt,
and with the calls that succeed the events. -/
inductive Attended (turn : Nat → Nat → Listener ν → Listener ν) :
    Nat → List Step → List Receipt → List MetricEvent → Fanout ν → Fanout ν → Prop
  | done (time : Nat) (f : Fanout ν) : Attended turn time [] [] [] f f
  | failNext {time : Nat} {e : StoreError} {rest : List Step} {receipts : List Receipt}
      {events : List MetricEvent} {f g : Fanout ν}
      (later : Attended turn (time + 1) rest receipts events f g) :
      Attended turn time (.failNext e :: rest) receipts events f g
  | call {time : Nat} {rest : List Step} {r : Receipt} {receipts : List Receipt}
      {first events : List MetricEvent} {f g h : Fanout ν}
      (heard : r.Heard (f.changed (turn time)) first g)
      (later : Attended turn (time + 1) rest receipts events g h) :
      Attended turn time (.call r.call :: rest) (r :: receipts) (first ++ events) f h

section

variable {turn : Nat → Nat → Listener ν → Listener ν} {time : Nat} {steps : List Step}
  {r : Receipt} {receipts : List Receipt} {events : List MetricEvent} {f g : Fanout ν}

theorem Receipt.Heard.hears (heard : r.Heard f events g) : f.Hears g events := by
  cases heard with
  | nothing failed => exact .nothing f
  | told worked reported delivered =>
      obtain ⟨heard, kept⟩ := delivered.hears
      exact ⟨heard, kept⟩

theorem Receipt.Heard.reported (heard : r.Heard f events g) :
    List.Forall₂ Reported ([r].filter fun r => r.result.isOk) events := by
  cases heard with
  | nothing failed =>
      rw [List.filter_singleton, failed]
      exact .nil
  | told worked reported delivered =>
      rw [List.filter_singleton, worked]
      exact .cons reported .nil

/-- Whoever attends a session hears its events. -/
theorem Attended.hears (attended : Attended turn time steps receipts events f g) :
    f.Hears g events := by
  induction attended with
  | done time f => exact .nothing f
  | failNext later ih => exact ih
  | call heard later ih => exact ((Fanout.hears_changed _ _).append heard.hears).append ih

/-- The events of a session report the calls that succeed, in their order. -/
theorem Attended.reported (attended : Attended turn time steps receipts events f g) :
    List.Forall₂ Receipt.Reported (receipts.filter fun r => r.result.isOk) events := by
  induction attended with
  | done time f => exact .nil
  | failNext later ih => exact ih
  | call heard later ih =>
      rw [← List.singleton_append, List.filter_append]
      exact List.rel_append heard.reported ih

end

variable {registry : Registry} {validator : Validator} {settings : WriterSettings}

end Memory

end RecordGraph
