import RecordGraph.Log
import RecordGraph.Statement

/-!
# Stores

A store carries out a batch of statements in one transaction and answers a read. It is a
state machine: what it does depends on its state alone, and time passes while it works.
-/

namespace RecordGraph

/-- A transaction that a store carries out. -/
structure Transaction (σ : Type) where
  outcome : Except StoreError Unit
  /-- How many milliseconds it takes. -/
  duration : Nat
  /-- The store afterwards. -/
  completed : σ
  /-- The store if nobody waits for the end. -/
  abandoned : σ
  /-- The lines it writes to the log. -/
  log : List LogEvent

/-- A backend that holds a graph. -/
structure Store (σ : Type) where
  transact : List Statement → σ → Transaction σ
  fetch : Statement → σ → Except StoreError (List PropertyMap) × σ

end RecordGraph
