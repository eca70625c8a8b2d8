import RecordGraph.Graph
import RecordGraph.Store

/-!
# A store in memory

A transaction works on a copy of the graph, which takes the place of the graph once every
statement has succeeded. Failures can be put in line: each one strikes one transaction,
after its first statement.
-/

namespace RecordGraph

/-- A graph with the failures still to come and a record of what was committed. -/
structure Memory where
  graph : Graph
  failures : List StoreError
  /-- The transactions begun, committed or not. They are counted without bound, since no run
  begins so many that 64 bits would not do. -/
  transactions : Nat
  /-- The operations of each committed transaction, the oldest first. -/
  committed : List (List Operation)

namespace Memory

def empty : Memory := ⟨.empty, [], 0, []⟩

/-- Puts a failure in line. -/
def failNext (m : Memory) (e : StoreError) : Memory :=
  { m with failures := m.failures ++ [e] }

/-- The graph after a transaction that the given failure strikes. -/
def attempt (g : Graph) (failure : Option StoreError) (statements : List Statement) :
    Except StoreError Graph :=
  match failure, statements with
  | some e, s :: _ =>
      match g.apply s with
      | .ok _ => .error e
      | .error reason => .error (.fatal reason.message)
  | _, statements => (g.applyAll statements).mapError fun reason => .fatal reason.message

/-- Carries out statements in one transaction. -/
def transact (statements : List Statement) (m : Memory) : Except StoreError Unit × Memory :=
  let begun : Memory :=
    { m with transactions := m.transactions + 1, failures := m.failures.tail }
  match attempt m.graph m.failures.head? statements with
  | .ok graph =>
      (.ok (), { begun with
        graph := graph
        committed := m.committed ++ [statements.map Statement.operation] })
  | .error e => (.error e, begun)

/-- The rows that a read gives. -/
def fetch (s : Statement) (m : Memory) : Except StoreError (List PropertyMap) :=
  (m.graph.read s).mapError fun reason => .fatal reason.message

/-- The store, which works without delay. -/
def store : Store Memory where
  transact statements m :=
    let (outcome, after) := transact statements m
    ⟨outcome, 0, after, after, []⟩
  fetch s m := (fetch s m, m)

end Memory

end RecordGraph
