import Mathlib.Data.List.Nodup
import RecordGraph.Fanout

/-!
# Who hears what

An event is told once to each listener that was there before it, in the order of their
registration and whatever they do on it. Listeners are only added at the end, so each keeps
its place.
-/

namespace RecordGraph.Fanout

/-- The events that the listener in a place was told, the earliest first. -/
def heard (f : Fanout ν) (index : Nat) : List MetricEvent :=
  (f.told.filter (·.1 = index)).map Prod.snd

theorem told_tellFrom (event : MetricEvent) (index : Nat) (ls : List (Listener ν))
    (f : Fanout ν) :
    (tellFrom event index ls f).told =
      f.told ++ (List.range' index ls.length).map (·, event) := by
  induction ls generalizing index f with
  | nil => exact (List.append_nil f.told).symm
  | cons listener rest ih =>
      rw [tellFrom, ih, List.length_cons, List.range'_succ, List.map_cons, List.append_cons]
      rfl

/-- The listeners that are there hear an event in the order of their registration. -/
theorem told_notify (f : Fanout ν) (event : MetricEvent) :
    (f.notify event).told = f.told ++ (List.range f.listeners.length).map (·, event) := by
  rw [notify, told_tellFrom, List.range_eq_range']

theorem heard_notify_eq (f : Fanout ν) (event : MetricEvent) (index : Nat) :
    (f.notify event).heard index = f.heard index ++
      ((List.range f.listeners.length).filter (· = index)).map fun _ => event := by
  rw [heard, told_notify, List.filter_append, List.map_append, List.filter_map, List.map_map]
  rfl

/-- A listener that is there hears an event once. -/
theorem heard_notify {f : Fanout ν} {index : Nat} (there : index < f.listeners.length)
    (event : MetricEvent) : (f.notify event).heard index = f.heard index ++ [event] := by
  have once : (List.range f.listeners.length).filter (· = index) = [index] := by
    rw [List.filter_eq, List.count_eq_one_of_mem List.nodup_range (List.mem_range.mpr there)]
    rfl
  rw [heard_notify_eq, once]
  rfl

/-- A listener that comes later does not hear an event. -/
theorem heard_notify_of_le {f : Fanout ν} {index : Nat} (beyond : f.listeners.length ≤ index)
    (event : MetricEvent) : (f.notify event).heard index = f.heard index := by
  have none : (List.range f.listeners.length).filter (· = index) = [] := by
    rw [List.filter_eq_nil_iff]
    intro i there
    have := List.mem_range.mp there
    simp only [decide_eq_true_eq]
    omega
  rw [heard_notify_eq, none]
  exact List.append_nil _

/-- The listeners once something else has changed how they react. -/
def changed (f : Fanout ν) (turn : Nat → Listener ν → Listener ν) : Fanout ν :=
  { f with listeners := f.listeners.mapIdx turn }

/-- Meanwhile every listener has heard the same events, and none was lost. -/
structure Hears (before after : Fanout ν) (events : List MetricEvent) : Prop where
  heard : ∀ index < before.listeners.length,
    after.heard index = before.heard index ++ events
  kept : before.listeners.length ≤ after.listeners.length

theorem Hears.nothing (f : Fanout ν) : f.Hears f [] where
  heard index _ := (List.append_nil (f.heard index)).symm
  kept := Nat.le_refl _

theorem Hears.append {f g h : Fanout ν} {earlier later : List MetricEvent}
    (first : f.Hears g earlier) (second : g.Hears h later) : f.Hears h (earlier ++ later) where
  heard index there := by
    rw [second.heard index (Nat.lt_of_lt_of_le there first.kept), first.heard index there,
      List.append_assoc]
  kept := Nat.le_trans first.kept second.kept

theorem hears_changed (f : Fanout ν) (turn : Nat → Listener ν → Listener ν) :
    f.Hears (f.changed turn) [] where
  heard index _ := (List.append_nil (f.heard index)).symm
  kept := Nat.le_of_eq List.length_mapIdx.symm

end RecordGraph.Fanout
