import RecordGraph.Proofs.Fanout

/-!
# Delivery of events

A notification calls the listeners that are registered when it starts, in order and once
each, whatever they do meanwhile. Those registered on the way are appended and hear the
events after it. What a listener does may depend on a state of its own: between two calls
every listener may come to react in another way.
-/

namespace RecordGraph

/-- What is logged of a reaction of the listener with the given index. -/
def Reaction.logged (r : Reaction ν L) (index : Nat) (kind : WriteKind) : List LogEvent :=
  r.log ++ if r.panics then [.listenerPanicked index kind] else []

namespace Fanout

variable {event : MetricEvent} {f : Fanout ν}

/-! ## One event -/

/-- What listeners do on an event, one after another. Each finds those registered that the
listeners before it have added. -/
def reactions (event : MetricEvent) :
    Nat → List (Listener ν) → List (Reaction ν (Listener ν))
  | _, [] => []
  | registered, listener :: rest =>
      let r := listener.react registered event
      r :: reactions event (registered + r.registered.length) rest

theorem getElem?_reactions (registered : Nat) (ls : List (Listener ν)) (index : Nat) :
    let rs := reactions event registered ls
    rs[index]? = ls[index]?.map fun l =>
      l.react (registered + ((rs.take index).flatMap Reaction.registered).length) event := by
  induction ls generalizing registered index with
  | nil => rfl
  | cons listener rest ih =>
      cases index with
      | zero => rfl
      | succ index =>
          intro rs
          have later := ih (registered + (listener.react registered event).registered.length) index
          simp only [rs, reactions, List.getElem?_cons_succ, List.take_succ_cons,
            List.flatMap_cons, List.length_append, ← Nat.add_assoc]
          exact later

theorem tellFrom_eq (event : MetricEvent) (index : Nat) (ls : List (Listener ν))
    (f : Fanout ν) :
    let rs := reactions event f.listeners.length ls
    tellFrom event index ls f = {
      listeners := f.listeners ++ rs.flatMap Reaction.registered
      notes := f.notes ++ rs.flatMap Reaction.notes
      log := f.log ++ (rs.mapIdx fun i r => r.logged (index + i) event.kind).flatten
      told := f.told ++ (List.range' index ls.length).map (·, event) } := by
  induction ls generalizing index f with
  | nil => simp only [tellFrom, reactions]; simp
  | cons listener rest ih =>
      intro rs
      rw [tellFrom, ih]
      simp only [tell, rs, reactions, List.length_append, List.flatMap_cons, List.mapIdx_cons,
        List.flatten_cons, List.append_assoc, Reaction.logged, Nat.add_zero, List.length_cons,
        List.range'_succ, List.map_cons, Nat.add_assoc, Nat.add_comm 1]
      rfl

/-- An event is delivered with the given reactions, one of each listener. -/
structure Delivered (f : Fanout ν) (event : MetricEvent) (rs : List (Reaction ν (Listener ν)))
    (g : Fanout ν) : Prop where
  /-- The method for the kind of the event is called with what the event says. -/
  called : ∀ index : Nat, rs[index]? = f.listeners[index]?.map fun l =>
    l.method event.kind (f.listeners.length + ((rs.take index).flatMap Reaction.registered).length)
      event.count event.elapsed event.retries
  listeners : g.listeners = f.listeners ++ rs.flatMap Reaction.registered
  notes : g.notes = f.notes ++ rs.flatMap Reaction.notes
  /-- That a listener panics is logged, and has no effect beyond that. -/
  log : g.log = f.log ++ (rs.mapIdx fun index r => r.logged index event.kind).flatten
  told : g.told = f.told ++ (List.range f.listeners.length).map (·, event)

theorem delivered_notify (f : Fanout ν) (event : MetricEvent) :
    f.Delivered event (reactions event f.listeners.length f.listeners) (f.notify event) := by
  have whole := tellFrom_eq event 0 f.listeners f
  refine ⟨getElem?_reactions f.listeners.length f.listeners, ?_, ?_, ?_, told_notify f event⟩
  · rw [notify, whole]
  · rw [notify, whole]
  · rw [notify, whole]
    simp only [Nat.zero_add]

/-- All listeners that are there hear an event that is delivered. -/
theorem Delivered.hears {rs : List (Reaction ν (Listener ν))} {g : Fanout ν}
    (delivered : f.Delivered event rs g) : f.Hears g [event] where
  heard index there := by
    rw [← heard_notify there event, heard, heard, delivered.told, told_notify]
  kept := by
    rw [delivered.listeners, List.length_append]
    exact Nat.le_add_right _ _

/-! ## Runs -/

/-- A call on the listeners, or what becomes of them between two calls. -/
inductive Step (ν : Type)
  | add (listener : Listener ν)
  | notify (event : MetricEvent)
  /-- Each listener comes to react in another way, by a state of its own. -/
  | change (turn : Nat → Listener ν → Listener ν)

namespace Step

def run (f : Fanout ν) : Step ν → Fanout ν
  | add listener => f.add listener
  | notify event => f.notify event
  | change turn => f.changed turn

def event? : Step ν → Option MetricEvent
  | notify event => some event
  | add _ | change _ => none

end Step

/-- The listeners after some steps. -/
def runAll (f : Fanout ν) (steps : List (Step ν)) : Fanout ν := steps.foldl Step.run f

theorem hears_add (f : Fanout ν) (listener : Listener ν) : f.Hears (f.add listener) [] where
  heard index _ := (List.append_nil (f.heard index)).symm
  kept := by
    rw [add, List.length_append]
    exact Nat.le_add_right _ _

theorem hears_step (f : Fanout ν) (step : Step ν) : f.Hears (step.run f) step.event?.toList := by
  cases step with
  | add listener => exact hears_add f listener
  | notify event => exact (delivered_notify f event).hears
  | change turn => exact hears_changed f turn

/-- Nobody beyond the listeners that are there has heard anything. -/
def Quiet (f : Fanout ν) : Prop := ∀ place, f.listeners.length ≤ place → f.heard place = []

theorem heard_step_of_le (step : Step ν) {place : Nat} (beyond : f.listeners.length ≤ place) :
    (step.run f).heard place = f.heard place := by
  cases step with
  | add listener => rfl
  | change turn => rfl
  | notify event => exact heard_notify_of_le beyond event

theorem Quiet.step (quiet : f.Quiet) (step : Step ν) : (step.run f).Quiet := by
  intro place beyond
  have before : f.listeners.length ≤ place := Nat.le_trans (hears_step f step).kept beyond
  rw [heard_step_of_le step before, quiet place before]

theorem Quiet.runAll (quiet : f.Quiet) (steps : List (Step ν)) : (f.runAll steps).Quiet := by
  induction steps generalizing f with
  | nil => exact quiet
  | cons step rest ih => exact ih (quiet.step step)

end Fanout

end RecordGraph
