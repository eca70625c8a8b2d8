import RecordGraph.Json.Value

/-!
# Metric events

What is reported of a committed write: its kind, the number of records, the time it took
and the number of attempts that had to be repeated.
-/

namespace RecordGraph

/-- A span of time: seconds, and nanoseconds below one second. -/
structure Duration where
  secs : UInt64
  nanos : UInt32
  nanos_lt : nanos.toNat < 1000000000
deriving DecidableEq, Repr

namespace Duration

def zero : Duration := ⟨0, 0, by decide⟩

/-- A span of `n` milliseconds. -/
def ofMillis (n : UInt64) : Duration where
  secs := n / 1000
  nanos := UInt32.ofNat (n.toNat % 1000 * 1000000)
  nanos_lt := by
    have : n.toNat % 1000 < 1000 := Nat.mod_lt _ (by decide)
    have := Nat.mod_le (n.toNat % 1000 * 1000000) 0x100000000
    rw [UInt32.toNat_ofNat']
    omega

/-- Seconds and any number of nanoseconds; none if the seconds overflow. -/
def ofParts? (secs : UInt64) (nanos : UInt32) : Option Duration :=
  let whole := secs.toNat + nanos.toNat / 1000000000
  if whole < 0x10000000000000000 then
    some {
      secs := UInt64.ofNat whole
      nanos := UInt32.ofNat (nanos.toNat % 1000000000)
      nanos_lt := by
        have : nanos.toNat % 1000000000 < 1000000000 := Nat.mod_lt _ (by decide)
        have := Nat.mod_le (nanos.toNat % 1000000000) 0x100000000
        rw [UInt32.toNat_ofNat']
        omega }
  else none

/-- Whole milliseconds. -/
def millis (d : Duration) : Nat := d.secs.toNat * 1000 + d.nanos.toNat / 1000000

def toJson (d : Duration) : Json :=
  .obj [("secs", Json.ofNat d.secs.toNat), ("nanos", Json.ofNat d.nanos.toNat)]

end Duration

/-- The four ways to write. -/
inductive WriteKind
  | entitiesAdded
  | entitiesRemoved
  | relationshipsAdded
  | relationshipsRemoved
deriving DecidableEq, Repr, Inhabited

namespace WriteKind

def all : List WriteKind :=
  [entitiesAdded, entitiesRemoved, relationshipsAdded, relationshipsRemoved]

def name : WriteKind → String
  | entitiesAdded => "entities_added"
  | entitiesRemoved => "entities_removed"
  | relationshipsAdded => "relationships_added"
  | relationshipsRemoved => "relationships_removed"

end WriteKind

/-- The report of one committed write. -/
structure MetricEvent where
  kind : WriteKind
  count : Nat
  elapsed : Duration
  retries : UInt32
deriving DecidableEq, Repr

namespace MetricEvent

/-- The report of a write without records, which never reaches the store. -/
def empty (kind : WriteKind) : MetricEvent := ⟨kind, 0, .zero, 0⟩

def toJson (e : MetricEvent) : Json :=
  .obj [("kind", .str e.kind.name), ("count", Json.ofNat e.count),
    ("elapsed", e.elapsed.toJson), ("retries", Json.ofNat e.retries.toNat)]

end MetricEvent

end RecordGraph
