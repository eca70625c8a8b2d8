import RecordGraph.Log

/-!
# Telling listeners

Every committed write is told to all listeners that are registered, in the order of their
registration. A listener may register more listeners, which hear of the next event first,
and one that panics does not keep the event from those after it.
-/

namespace RecordGraph

/-- What a listener does on an event: what it notes, whom it registers and what it logs
before it returns or panics. -/
structure Reaction (ν L : Type) where
  notes : List ν
  registered : List L
  log : List LogEvent
  panics : Bool

/-- A listener, given by its methods. Each is called with the number of listeners that are
registered then and with the count, the time and the retries of an event of its kind. -/
inductive Listener (ν : Type)
  | ofMethods (entitiesAdded entitiesRemoved relationshipsAdded relationshipsRemoved :
      Nat → Nat → Duration → UInt32 → Reaction ν (Listener ν))

namespace Listener

/-- What a listener does when a method of it is called. -/
abbrev Method (ν : Type) := Nat → Nat → Duration → UInt32 → Reaction ν (Listener ν)

/-- The method for events of a kind. -/
def method : Listener ν → WriteKind → Method ν
  | ofMethods entitiesAdded _ _ _, .entitiesAdded => entitiesAdded
  | ofMethods _ entitiesRemoved _ _, .entitiesRemoved => entitiesRemoved
  | ofMethods _ _ relationshipsAdded _, .relationshipsAdded => relationshipsAdded
  | ofMethods _ _ _ relationshipsRemoved, .relationshipsRemoved => relationshipsRemoved

/-- Calls the method for the kind of an event. -/
def react (l : Listener ν) (registered : Nat) (event : MetricEvent) : Reaction ν (Listener ν) :=
  l.method event.kind registered event.count event.elapsed event.retries

/-- The listener whose methods all do the same, given the kind of the event. -/
def mk (react : Nat → MetricEvent → Reaction ν (Listener ν)) : Listener ν :=
  let method (kind : WriteKind) : Method ν :=
    fun registered count elapsed retries => react registered ⟨kind, count, elapsed, retries⟩
  ofMethods (method .entitiesAdded) (method .entitiesRemoved) (method .relationshipsAdded)
    (method .relationshipsRemoved)

/-- The listener that writes every event to the log. -/
def reporting : Listener ν := mk fun _ event => ⟨[], [], [.reported event], false⟩

end Listener

/-- The registered listeners, with all that they have been told, noted and logged. -/
structure Fanout (ν : Type) where
  listeners : List (Listener ν)
  notes : List ν
  log : List LogEvent
  /-- Which listener was told which event, the earliest first. -/
  told : List (Nat × MetricEvent)

namespace Fanout

def ofListeners (listeners : List (Listener ν)) : Fanout ν := ⟨listeners, [], [], []⟩

def add (f : Fanout ν) (listener : Listener ν) : Fanout ν :=
  { f with listeners := f.listeners ++ [listener] }

/-- Tells an event to the listener with the given index. -/
def tell (event : MetricEvent) (f : Fanout ν) (listener : Listener ν) (index : Nat) :
    Fanout ν :=
  let r := listener.react f.listeners.length event
  { listeners := f.listeners ++ r.registered
    notes := f.notes ++ r.notes
    log := f.log ++ r.log ++ if r.panics then [.listenerPanicked index event.kind] else []
    told := f.told ++ [(index, event)] }

/-- Tells an event to listeners whose indices start at the given one. -/
def tellFrom (event : MetricEvent) : Nat → List (Listener ν) → Fanout ν → Fanout ν
  | _, [], f => f
  | index, listener :: rest, f => tellFrom event (index + 1) rest (f.tell event listener index)

/-- Tells an event to all listeners that are registered now. -/
def notify (f : Fanout ν) (event : MetricEvent) : Fanout ν :=
  tellFrom event 0 f.listeners f

end Fanout

end RecordGraph
