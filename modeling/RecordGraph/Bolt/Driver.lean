import RecordGraph.Bolt.Failure
import RecordGraph.Bolt.Value
import RecordGraph.Store

/-!
# A store behind a driver

The driver starts, ends and carries out transactions on a server. A transaction that was
started is ended exactly once: it is committed if all statements succeed, and rolled back
as soon as one fails.
-/

namespace RecordGraph.Bolt

/-- What a read returns: rows in portions, and how it may break off. -/
structure Stream where
  portions : List (List Row)
  failure : Option Failure

/-- The calls that a driver offers. -/
structure Driver (σ : Type) where
  start : σ → Except Failure Unit × σ
  run : Statement → σ → Except Failure Unit × σ
  rollback : σ → Except Failure Unit × σ
  commit : σ → Except Failure Unit × σ
  query : Statement → σ → Except Failure Stream × σ
  /-- Asks for the next portion of rows. -/
  pull : σ → σ
  /-- The JSON form in which a value is shown, if it has one. -/
  present : Value → Option Json

namespace Driver

/-- Runs statements in order up to the first that fails. -/
def runAll (d : Driver σ) : List Statement → σ → Option (Failure × Statement) × σ
  | [], s => (none, s)
  | statement :: rest, s =>
      match d.run statement s with
      | (.ok (), s) => d.runAll rest s
      | (.error f, s) => (some (f, statement), s)

/-- The outcome of a call as that of a store. -/
def outcome (r : Except Failure Unit) : Except StoreError Unit := r.mapError Failure.storeError

/-- Carries out statements in one transaction. How the rollback ends does not matter, since
the server gives an unfinished transaction up anyway. -/
def transact (d : Driver σ) (statements : List Statement) (s : σ) :
    Except StoreError Unit × σ × List LogEvent :=
  match d.start s with
  | (.error f, s) => (.error f.storeError, s, [])
  | (.ok (), s) =>
      match d.runAll statements s with
      | (none, s) =>
          let (r, s) := d.commit s
          (outcome r, s, [])
      | (some (f, statement), s) =>
          (.error f.storeError, (d.rollback s).2, [.rollingBack f.message statement.text])

/-- The properties of rows in order, up to the first that has none. -/
def decodeRows (d : Driver σ) : List Row → Except StoreError (List PropertyMap)
  | [] => .ok []
  | row :: rest => do
      let m ← row.properties d.present
      return m :: (← d.decodeRows rest)

/-- Collects the rows of a stream, asking for one portion after another. -/
def collect (d : Driver σ) (failure : Option Failure) :
    List (List Row) → σ → Except StoreError (List PropertyMap) × σ
  | [], s =>
      match failure with
      | some f => (.error f.storeError, s)
      | none => (.ok [], s)
  | portion :: rest, s =>
      let s := d.pull s
      match d.decodeRows portion with
      | .error e => (.error e, s)
      | .ok ms =>
          let (others, s) := d.collect failure rest s
          (others.map (ms ++ ·), s)

/-- Carries out a read. -/
def fetch (d : Driver σ) (statement : Statement) (s : σ) :
    Except StoreError (List PropertyMap) × σ :=
  match d.query statement s with
  | (.error f, s) => (.error f.storeError, s)
  | (.ok stream, s) => d.collect stream.failure stream.portions s

/-- The store behind a driver. Nobody knows how long a call takes. -/
def store (d : Driver σ) : Store σ where
  transact statements s :=
    let (r, after, log) := d.transact statements s
    ⟨r, 0, after, after, log⟩
  fetch := d.fetch

end Driver

end RecordGraph.Bolt
