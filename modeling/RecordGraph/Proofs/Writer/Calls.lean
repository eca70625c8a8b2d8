import RecordGraph.Proofs.Statement.Meaning
import RecordGraph.Proofs.Store.Attempts
import RecordGraph.Writer

/-!
# Calls that write

The four ways to write, as data. A call is refused, or has nothing to do, or has its batch
executed; its batch makes one change to a graph, and only a call that succeeds is reported.
-/

namespace RecordGraph

/-- A call that writes. -/
inductive WriteCall
  | addEntities (es : List Entity)
  | removeEntities (us : List Urn)
  | addRelationships (policy : RemovalPolicy) (rs : List Relationship)
  | removeRelationships (rs : List Relationship)

namespace WriteCall

def run (w : Writer σ) : WriteCall → Scene σ ν → Except GraphError Unit × Scene σ ν
  | addEntities es => w.addEntities es
  | removeEntities us => w.removeEntities us
  | addRelationships policy rs => w.addRelationships policy rs
  | removeRelationships rs => w.removeRelationships rs

/-- The batch of a call whose records are valid. -/
def batch (registry : Registry) (validator : Validator) :
    WriteCall → Except GraphError (List Statement)
  | addEntities es => do
      Validator.all validator.entity es
      Statement.upsertNodes registry es
  | removeEntities us => .ok (us.map (Statement.deleteNode registry))
  | addRelationships policy rs => do
      Validator.all validator.relationship rs
      Statement.addRelationships registry policy rs
  | removeRelationships rs => do
      Validator.all validator.relationship rs
      Statement.deleteEdges registry rs

/-- What a call does to a graph. -/
def effect (registry : Registry) : WriteCall → Graph → Graph
  | addEntities es, g => g.upsertAll (es.map registry.written)
  | removeEntities us, g => g.deleteAll (us.map registry.node)
  | addRelationships policy rs, g => g.replace policy (rs.map registry.edge)
  | removeRelationships rs, g => g.unlinkAll (rs.map registry.selection)

/-- The kind of a call in the report of it. -/
def kind : WriteCall → WriteKind
  | addEntities _ => .entitiesAdded
  | removeEntities _ => .entitiesRemoved
  | addRelationships _ _ => .relationshipsAdded
  | removeRelationships _ => .relationshipsRemoved

/-- The number of records of a call. -/
def count : WriteCall → Nat
  | addEntities es => es.length
  | removeEntities us => us.length
  | addRelationships _ rs => rs.length
  | removeRelationships rs => rs.length

variable {registry : Registry} {validator : Validator}

theorem applyAll_batch {call : WriteCall} {ss : List Statement}
    (built : call.batch registry validator = .ok ss) (g : Graph) :
    g.applyAll ss = .ok (call.effect registry g) := by
  cases call with
  | addEntities es =>
      obtain ⟨-, -, built⟩ := bind_eq_ok_iff.mp built
      exact Graph.applyAll_upsertNodes built g
  | removeEntities us =>
      cases built
      exact Graph.applyAll_deleteNodes us g
  | addRelationships policy rs =>
      obtain ⟨-, -, built⟩ := bind_eq_ok_iff.mp built
      exact Graph.applyAll_addRelationships built g
  | removeRelationships rs =>
      obtain ⟨-, -, built⟩ := bind_eq_ok_iff.mp built
      exact Graph.applyAll_deleteEdges built g

/-- The properties that a call writes to nodes and edges. -/
def properties : WriteCall → List PropertyMap
  | addEntities es => es.map fun e => SortedMap.erase (Statement.carried e.properties) Param.urn
  | addRelationships _ rs => rs.map fun r => Statement.carried r.properties
  | _ => []

/-- A call keeps every kind of properties that those it writes are of. -/
theorem effect_each {P : PropertyMap → Prop} (closed : Graph.Closed P) (call : WriteCall)
    (new : ∀ m ∈ call.properties, P m) {g : Graph} (each : g.Each P) :
    (call.effect registry g).Each P := by
  cases call with
  | addEntities es =>
      refine each.upsertAll closed ?_
      intro w member
      obtain ⟨e, here, rfl⟩ := List.mem_map.mp member
      exact new _ (List.mem_map_of_mem here)
  | removeEntities us => exact each.deleteAll _
  | addRelationships policy rs =>
      refine each.replace closed policy ?_
      intro e member
      obtain ⟨r, here, rfl⟩ := List.mem_map.mp member
      exact new _ (List.mem_map_of_mem here)
  | removeRelationships rs => exact each.unlinkAll _

theorem sorted_properties (call : WriteCall) : ∀ m ∈ call.properties, SortedMap.Sorted m := by
  intro m member
  cases call with
  | addEntities es =>
      obtain ⟨e, -, rfl⟩ := List.mem_map.mp member
      exact (Statement.sorted_carried e.properties).erase Param.urn
  | removeEntities us => cases member
  | addRelationships policy rs =>
      obtain ⟨r, -, rfl⟩ := List.mem_map.mp member
      exact Statement.sorted_carried r.properties
  | removeRelationships rs => cases member

theorem effect_ordered (call : WriteCall) {g : Graph} (ordered : g.Ordered) :
    (call.effect registry g).Ordered :=
  Graph.ordered_iff_each.mpr (call.effect_each Graph.closed_sorted call.sorted_properties
    (Graph.ordered_iff_each.mp ordered))

theorem length_upsertNodes {es : List Entity} {ss : List Statement}
    (built : Statement.upsertNodes registry es = .ok ss) : es.length = 0 ↔ ss = [] :=
  (Statement.recordByRecord_upsertNodes registry).length_eq_zero_iff
    (fun _ _ _ => List.cons_ne_nil _ _) built

theorem length_deleteEdges {rs : List Relationship} {ss : List Statement}
    (built : Statement.deleteEdges registry rs = .ok ss) : rs.length = 0 ↔ ss = [] :=
  (Statement.recordByRecord_deleteEdges registry).length_eq_zero_iff
    (fun _ _ _ => List.cons_ne_nil _ _) built

theorem length_addRelationships {policy : RemovalPolicy} {rs : List Relationship}
    {ss : List Statement} (built : Statement.addRelationships registry policy rs = .ok ss) :
    rs.length = 0 ↔ ss = [] := by
  obtain ⟨cleared, builtCleared, more⟩ := bind_eq_ok_iff.mp built
  obtain ⟨written, builtWritten, done⟩ := bind_eq_ok_iff.mp more
  cases done
  have counted : rs.length = 0 ↔ written = [] :=
    (Statement.recordByRecord_upsertEdges registry).length_eq_zero_iff
      (fun _ _ _ => List.cons_ne_nil _ _) builtWritten
  cases rs with
  | nil =>
      cases builtWritten
      cases policy <;> cases builtCleared <;> simp
  | cons r rest =>
      rw [List.append_eq_nil_iff, ← counted]
      simp

/-- Only a call without records has nothing to execute. -/
theorem count_eq_zero_iff {call : WriteCall} {ss : List Statement}
    (built : call.batch registry validator = .ok ss) : call.count = 0 ↔ ss = [] := by
  cases call with
  | addEntities es =>
      obtain ⟨-, -, built⟩ := bind_eq_ok_iff.mp built
      exact length_upsertNodes built
  | removeEntities us =>
      cases built
      exact List.length_eq_zero_iff.trans List.map_eq_nil_iff.symm
  | addRelationships policy rs =>
      obtain ⟨-, -, built⟩ := bind_eq_ok_iff.mp built
      exact length_addRelationships built
  | removeRelationships rs =>
      obtain ⟨-, -, built⟩ := bind_eq_ok_iff.mp built
      exact length_deleteEdges built

/-- How a call ends, and what the listeners are told of it. -/
inductive Ends (w : Writer σ) (call : WriteCall) (s : Scene σ ν) :
    Except GraphError Unit → Scene σ ν → Prop
  | refused {e : GraphError} {world : World σ}
      (built : call.batch w.registry w.validator = .error e)
      (same : world.store = s.world.store) : Ends w call s (.error e) ⟨world, s.fanout⟩
  | idle {world : World σ} (built : call.batch w.registry w.validator = .ok [])
      (same : world.store = s.world.store) :
      Ends w call s (.ok ()) (Scene.tell ⟨world, s.fanout⟩ (.empty call.kind))
  | failed {ss : List Statement} {e : GraphError} {world : World σ}
      (built : call.batch w.registry w.validator = .ok ss) (nonempty : ss ≠ [])
      (ended : w.store.Ended w.settings ss s.world.store (.error e) world.store) :
      Ends w call s (.error e) ⟨world, s.fanout⟩
  | committed {ss : List Statement} {execution : Execution} {world : World σ}
      (built : call.batch w.registry w.validator = .ok ss) (nonempty : ss ≠ [])
      (ended : w.store.Ended w.settings ss s.world.store (.ok execution.retries) world.store) :
      Ends w call s (.ok ())
        (Scene.tell ⟨world, s.fanout⟩
          ⟨call.kind, call.count, execution.elapsed, execution.retries⟩)

variable {w : Writer σ} {call : WriteCall} {s after : Scene σ ν} {result : Except GraphError Unit}

/-- What the building of a batch comes to when it is committed. -/
theorem ends_of_commitBuilt {urns : List Urn} {built : Except GraphError (List Statement)}
    (same : call.batch w.registry w.validator = built)
    (done : w.commitBuilt call.kind call.count urns built s = (result, after)) :
    Ends w call s result after := by
  unfold Writer.commitBuilt at done
  cases built with
  | error e =>
      cases done
      exact .refused same rfl
  | ok ss =>
      change w.commit call.kind call.count ss _ = _ at done
      unfold Writer.commit at done
      split at done
      · rename_i none
        obtain rfl := (count_eq_zero_iff same).mp none
        cases done
        exact .idle same rfl
      · rename_i some
        have nonempty : ss ≠ [] := fun nothing => some ((count_eq_zero_iff same).mpr nothing)
        split at done
        · rename_i tried
          have ended := Store.ended_of_execute nonempty tried
          cases done
          exact .failed same nonempty ended
        · rename_i tried
          have ended := Store.ended_of_execute nonempty tried
          cases done
          exact .committed same nonempty ended

/-- The same after a check of all records. -/
theorem ends_of_validated {urns : List Urn} {checked : Except GraphError Unit}
    {built : Except GraphError (List Statement)}
    (done : (match checked with
      | .error e => (.error e, s)
      | .ok () => w.commitBuilt call.kind call.count urns built s) = (result, after))
    (same : call.batch w.registry w.validator = checked >>= fun _ => built) :
    Ends w call s result after := by
  cases checked with
  | error e =>
      cases done
      exact .refused same rfl
  | ok valid => exact ends_of_commitBuilt same done

theorem ends_of_run (done : call.run w s = (result, after)) : Ends w call s result after := by
  cases call with
  | addEntities es => exact ends_of_validated done rfl
  | removeEntities us => exact ends_of_commitBuilt rfl done
  | addRelationships policy rs => exact ends_of_validated done rfl
  | removeRelationships rs => exact ends_of_validated done rfl

/-- How a call ends for the store: it is refused, or it has nothing to do, or its batch is
executed. -/
inductive Outcome (w : Writer σ) (call : WriteCall) (start : σ) :
    Except GraphError Unit → σ → Prop
  | refused {e : GraphError} (built : call.batch w.registry w.validator = .error e) :
      Outcome w call start (.error e) start
  | idle (built : call.batch w.registry w.validator = .ok []) : Outcome w call start (.ok ()) start
  | executed {ss : List Statement} {retries : Except GraphError UInt32} {after : σ}
      (built : call.batch w.registry w.validator = .ok ss) (nonempty : ss ≠ [])
      (ended : w.store.Ended w.settings ss start retries after) :
      Outcome w call start (retries.map fun _ => ()) after

/-- Every call ends in one of the three ways. -/
theorem outcome_of_run (done : call.run w s = (result, after)) :
    Outcome w call s.world.store result after.world.store := by
  cases ends_of_run done with
  | refused built same => exact same ▸ .refused built
  | idle built same => exact same ▸ .idle built
  | failed built nonempty ended => exact .executed built nonempty ended
  | committed built nonempty ended => exact .executed built nonempty ended

end WriteCall

end RecordGraph
