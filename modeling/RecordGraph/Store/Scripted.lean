import RecordGraph.Store

/-!
# A scripted store

Each transaction takes its outcome and its duration from a script and succeeds at once when
the script has run out. Reads give rows that are laid down, or a failure. The store notes
what it was asked for.
-/

namespace RecordGraph

/-- What a transaction comes to. -/
structure ScriptEntry where
  outcome : Except StoreError Unit
  /-- How many milliseconds it takes. -/
  delay : Nat

/-- What a scripted store was asked for. -/
inductive StoreCall
  | began (statements : Nat)
  | ended (outcome : Except StoreError Unit)
  | fetched (text : String)

structure Script where
  entries : List ScriptEntry
  rows : Except StoreError (List PropertyMap)
  calls : List StoreCall

namespace Script

/-- The store of a script. A transaction that nobody waits for has begun but not ended. -/
def store : Store Script where
  transact statements s :=
    let entry := s.entries.headD ⟨.ok (), 0⟩
    let begun := { s with
      entries := s.entries.tail
      calls := s.calls ++ [.began statements.length] }
    ⟨entry.outcome, entry.delay, { begun with calls := begun.calls ++ [.ended entry.outcome] },
      begun, []⟩
  fetch statement s := (s.rows, { s with calls := s.calls ++ [.fetched statement.text] })

end Script

end RecordGraph
