import RecordGraph.Proofs.Writer.Runs

/-!
# Writing a batch more than once

An attempt that is given up may have committed, and the batch is then applied once more. The
batches of all calls converge: from the first application on, nodes and edges stay what they
are, and reads give the same rows.
-/

namespace RecordGraph

namespace Graph

/-- Applies a batch a number of times. -/
def applyTimes (g : Graph) (ss : List Statement) : Nat → Except StatementError Graph
  | 0 => .ok g
  | n + 1 => do
      let g ← g.applyTimes ss n
      g.applyAll ss

/-- Graphs that no read of a writer tells apart. -/
def SameRows (g h : Graph) : Prop :=
  ∀ (w : Writer Memory) (left right : World Memory), w.store = Memory.store →
    left.store.graph = g → right.store.graph = h →
    (∀ u, (w.getNode u left).1 = (w.getNode u right).1) ∧
    (∀ u, (w.getAllNodes u left).1 = (w.getAllNodes u right).1) ∧
    (∀ r, (w.getEdges r left).1 = (w.getEdges r right).1) ∧
    ∀ source label,
      (w.getEdgesFromSource source label left).1 = (w.getEdgesFromSource source label right).1

/-- A graph is what it was after one application, up to the order of its edges. -/
structure Converged (g once : Graph) : Prop where
  nodes : g.nodes = once.nodes
  edges : g.edges.Perm once.edges
  rows : SameRows g once

theorem Alike.sameRows {g h : Graph} (alike : Alike g h) : SameRows g h := by
  intro w left right inMemory here there
  have fetched (urns : List Urn) (built : Except GraphError Statement) :
      (w.fetchBuilt urns built left).1 = (w.fetchBuilt urns built right).1 := by
    cases built with
    | error e => rfl
    | ok s =>
        unfold Writer.fetchBuilt
        rw [inMemory]
        change ((left.store.graph.read s).mapError _).mapError _ =
          ((right.store.graph.read s).mapError _).mapError _
        rw [here, there, alike.read]
  refine ⟨?_, ?_, ?_, ?_⟩
  · intro u
    exact congrArg (Except.map List.head?)
      (fetched [u] (.ok (Statement.matchNodes w.registry u)))
  · intro u
    exact fetched _ _
  · intro r
    exact fetched _ _
  · intro source label
    exact fetched _ _

theorem Alike.converged {g h : Graph} (alike : Alike g h) : Converged g h :=
  ⟨alike.nodes, alike.perm, alike.sameRows⟩

end Graph

namespace WriteCall

variable {registry : Registry} {validator : Validator} {call : WriteCall} {ss : List Statement}

/-- The second of two equal calls leaves the graph as it is. -/
theorem effect_again (built : call.batch registry validator = .ok ss) {g : Graph}
    (consistent : g.Consistent) (ordered : g.Ordered) :
    Graph.Alike (call.effect registry (call.effect registry g)) (call.effect registry g) := by
  cases call with
  | addEntities es =>
      change Graph.Alike ((g.upsertAll _).upsertAll _) (g.upsertAll _)
      rw [Graph.upsertAll_again consistent ordered]
      exact Graph.Alike.refl _
  | removeEntities us =>
      change Graph.Alike ((g.deleteAll _).deleteAll _) (g.deleteAll _)
      rw [Graph.deleteAll_again]
      exact Graph.Alike.refl _
  | addRelationships policy rs =>
      obtain ⟨-, -, built⟩ := bind_eq_ok_iff.mp built
      refine Graph.replace_again consistent ordered policy ?_ ?_
      · intro e member
        obtain ⟨r, -, rfl⟩ := List.mem_map.mp member
        exact Graph.sorted_edge r
      · exact Graph.admits_of_addRelationships built
  | removeRelationships rs =>
      change Graph.Alike ((g.unlinkAll _).unlinkAll _) (g.unlinkAll _)
      rw [Graph.unlinkAll_again]
      exact Graph.Alike.refl _

/-- The invariant of repeated application: one application more always gives the same. -/
theorem applyTimes_batch (built : call.batch registry validator = .ok ss) {g : Graph}
    (consistent : g.Consistent) (ordered : g.Ordered) (n : Nat) :
    ∃ h, g.applyTimes ss n = .ok h ∧ h.Consistent ∧ h.Ordered ∧
      Graph.Alike (call.effect registry h) (call.effect registry g) := by
  induction n with
  | zero => exact ⟨g, rfl, consistent, ordered, Graph.Alike.refl _⟩
  | succ n ih =>
      obtain ⟨h, applied, consistent, ordered, alike⟩ := ih
      have once := applyAll_batch built h
      refine ⟨call.effect registry h, ?_, ?_, ?_, ?_⟩
      · rw [Graph.applyTimes, applied]
        exact once
      · exact consistent.applyAll once
      · exact call.effect_ordered ordered
      · exact (effect_again built consistent ordered).trans alike

theorem applyTimes_converged (built : call.batch registry validator = .ok ss) {g : Graph}
    (consistent : g.Consistent) (ordered : g.Ordered) {n : Nat} (positive : 1 ≤ n) :
    ∃ h, g.applyTimes ss n = .ok h ∧ Graph.Converged h (call.effect registry g) := by
  obtain ⟨n, rfl⟩ := Nat.exists_eq_add_of_le' positive
  obtain ⟨h, applied, -, -, alike⟩ := applyTimes_batch built consistent ordered n
  refine ⟨call.effect registry h, ?_, alike.converged⟩
  rw [Graph.applyTimes, applied]
  exact applyAll_batch built h

end WriteCall

/-! ## Attempts that may have committed -/

/-- What can be seen of a store: its graph, and how often it has committed. -/
structure View (σ : Type) where
  graph : σ → Graph
  commits : σ → Nat

namespace View

variable {σ : Type} (view : View σ)

/-- A batch was committed once. -/
structure Commits (ss : List Statement) (before after : σ) : Prop where
  graph : (view.graph before).applyAll ss = .ok (view.graph after)
  commits : view.commits after = view.commits before + 1

/-- Nothing was committed. -/
structure Idles (before after : σ) : Prop where
  graph : view.graph after = view.graph before
  commits : view.commits after = view.commits before

/-- A store commits a batch at least once: an attempt that it reports as a transient failure
may have committed the batch all the same. -/
structure AtLeastOnce (store : Store σ) (settings : WriterSettings) (ss : List Statement) :
    Prop where
  success : ∀ {s after}, store.trial settings ss s = (.ok (), after) → view.Commits ss s after
  transient : ∀ {s after text}, store.trial settings ss s = (.error (.transient text), after) →
    view.Commits ss s after ∨ view.Idles s after
  fatal : ∀ {s after text}, store.trial settings ss s = (.error (.fatal text), after) →
    view.Idles s after

/-- The graph is the one from before with the batch applied once for each commit. -/
def Applied (ss : List Statement) (before after : σ) : Prop :=
  ∃ n, view.commits after = view.commits before + n ∧
    (view.graph before).applyTimes ss n = .ok (view.graph after)

variable {view} {store : Store σ} {settings : WriterSettings} {ss : List Statement}

theorem Applied.refl (s : σ) : view.Applied ss s s := ⟨0, rfl, rfl⟩

theorem Applied.commit {start s after : σ} (applied : view.Applied ss start s)
    (commits : view.Commits ss s after) : view.Applied ss start after := by
  obtain ⟨n, count, graph⟩ := applied
  refine ⟨n + 1, ?_, ?_⟩
  · rw [commits.commits, count, Nat.add_assoc]
  · rw [Graph.applyTimes, graph]
    exact commits.graph

theorem Applied.idle {start s after : σ} (applied : view.Applied ss start s)
    (idles : view.Idles s after) : view.Applied ss start after := by
  obtain ⟨n, count, graph⟩ := applied
  exact ⟨n, idles.commits.trans count, idles.graph ▸ graph⟩

theorem Applied.transient (contract : view.AtLeastOnce store settings ss) {start s after : σ}
    {text : String} (applied : view.Applied ss start s)
    (failed : store.trial settings ss s = (.error (.transient text), after)) :
    view.Applied ss start after := by
  rcases contract.transient failed with commits | idles
  · exact applied.commit commits
  · exact applied.idle idles

theorem applied_of_retried (contract : view.AtLeastOnce store settings ss) {start s : σ} {n : Nat}
    (retried : store.Retried settings ss start n s) : view.Applied ss start s := by
  induction retried with
  | none => exact Applied.refl start
  | more before failed ih => exact ih.transient contract failed

theorem applied_of_ended (contract : view.AtLeastOnce store settings ss) {start after : σ}
    {result : Except GraphError UInt32} (ended : store.Ended settings ss start result after) :
    view.Applied ss start after := by
  cases ended with
  | committed retried within last =>
      exact (applied_of_retried contract retried).commit (contract.success last)
  | failed retried within last =>
      exact (applied_of_retried contract retried).idle (contract.fatal last)
  | exhausted retried last => exact (applied_of_retried contract retried).transient contract last

theorem applied_of_execute (contract : view.AtLeastOnce store settings ss) (w : World σ) :
    view.Applied ss w.store (store.execute settings ss w).2.store := by
  cases ss with
  | nil => exact Applied.refl w.store
  | cons s rest =>
      exact applied_of_ended contract (Store.ended_of_execute (List.cons_ne_nil s rest) rfl)

end View

namespace Memory

/-- A store in memory that takes its time. A transaction that nobody waits for is carried out
all the same. -/
def slow (delay : Memory → Nat) : Store Memory where
  transact statements m :=
    let (outcome, after) := transact statements m
    ⟨outcome, delay m, after, after, []⟩
  fetch s m := (fetch s m, m)

def view : View Memory := ⟨Memory.graph, fun m => m.committed.length⟩

theorem view_commits {ss : List Statement} (nonempty : ss ≠ []) {m after : Memory}
    (done : transact ss m = (.ok (), after)) : view.Commits ss m after := by
  obtain ⟨-, graph, applied, rfl⟩ := transact_ok nonempty done
  refine ⟨applied, ?_⟩
  change (m.committed ++ [_]).length = m.committed.length + 1
  rw [List.length_append]
  rfl

theorem view_idles {ss : List Statement} {m after : Memory} {e : StoreError}
    (done : transact ss m = (.error e, after)) : view.Idles m after := by
  obtain ⟨rfl, -⟩ := transact_error done
  exact ⟨rfl, rfl⟩

/-- What a slow transaction is reported as, and what it does. -/
theorem slow_trial (delay : Memory → Nat) (settings : WriterSettings) (ss : List Statement)
    (m : Memory) :
    (slow delay).trial settings ss m = transact ss m ∨
      ∃ text, (slow delay).trial settings ss m =
        (.error (.transient text), (transact ss m).2) := by
  rw [Store.trial_eq_within]
  cases settings.timeoutMillis with
  | none => exact .inl rfl
  | some limit =>
      by_cases intime : delay m ≤ limit.toNat
      · left
        simp only [Transaction.within, slow, intime, ↓reduceIte]
      · right
        simp only [Transaction.within, slow, intime, ↓reduceIte]
        exact ⟨_, rfl⟩

theorem slow_atLeastOnce (delay : Memory → Nat) (settings : WriterSettings)
    {ss : List Statement} (nonempty : ss ≠ []) :
    view.AtLeastOnce (slow delay) settings ss where
  success := by
    intro m after done
    rcases slow_trial delay settings ss m with same | ⟨text, late⟩
    · exact view_commits nonempty (same.symm.trans done)
    · cases late.symm.trans done
  transient := by
    intro m after text done
    rcases slow_trial delay settings ss m with same | ⟨text, late⟩
    · exact .inr (view_idles (same.symm.trans done))
    · cases late.symm.trans done
      cases outcome : transact ss m with
      | mk result after =>
          cases result with
          | ok worked => exact .inl (view_commits nonempty outcome)
          | error e => exact .inr (view_idles outcome)
  fatal := by
    intro m after text done
    rcases slow_trial delay settings ss m with same | ⟨text, late⟩
    · exact view_idles (same.symm.trans done)
    · cases late.symm.trans done

end Memory

/-- The batch of a call converges, and so does an execution of it over a store that commits
it at least once. -/
theorem WriteCall.converges {m : Memory} (reachable : m.Reachable) (registry : Registry)
    (validator : Validator) (call : WriteCall) {ss : List Statement}
    (built : call.batch registry validator = .ok ss) :
    ∃ once, m.graph.applyAll ss = .ok once ∧
      (∀ k, 1 ≤ k → ∃ g, m.graph.applyTimes ss k = .ok g ∧ Graph.Converged g once) ∧
      ∀ (σ : Type) (view : View σ) (store : Store σ) (settings : WriterSettings) (w : World σ),
        view.AtLeastOnce store settings ss → view.graph w.store = m.graph →
        let after := (store.execute settings ss w).2.store
        (view.commits after = view.commits w.store ∧ view.graph after = m.graph) ∨
          (view.commits w.store < view.commits after ∧
            Graph.Converged (view.graph after) once) := by
  have converged (k : Nat) (positive : 1 ≤ k) :=
    applyTimes_converged built reachable.consistent reachable.ordered positive
  refine ⟨call.effect registry m.graph, applyAll_batch built m.graph, converged, ?_⟩
  intro σ view store settings w contract same after
  obtain ⟨n, count, graph⟩ := View.applied_of_execute contract w
  rw [same] at graph
  cases n with
  | zero => exact .inl ⟨count, (Except.ok.inj graph).symm⟩
  | succ n =>
      obtain ⟨g, applied, same⟩ := converged (n + 1) (Nat.le_add_left 1 n)
      refine .inr ⟨?_, ?_⟩
      · exact Nat.lt_of_lt_of_eq (Nat.lt_add_of_pos_right (Nat.succ_pos n)) count.symm
      · rw [applied] at graph
        exact Except.ok.inj graph ▸ same

/-- The first attempt is given up after it has committed, so the batch is applied twice. -/
theorem WriteCall.converges_after_timeout :
    let call : WriteCall := .addEntities [⟨.ann, .ok .empty⟩]
    let store := Memory.slow fun m => if m.transactions = 0 then 200 else 0
    ∃ ss once, call.batch Registry.empty .structural = .ok ss ∧
      Graph.empty.applyAll ss = .ok once ∧
      (store.execute ⟨1, some 10, 0⟩ ss (.ofStore .empty)).2.store.committed.length = 2 ∧
      Graph.Converged
        (store.execute ⟨1, some 10, 0⟩ ss (.ofStore .empty)).2.store.graph once := by
  intro call store
  obtain ⟨ss, once, built, applied, nonempty, twice⟩ :
      ∃ ss once, call.batch Registry.empty .structural = .ok ss ∧
        Graph.empty.applyAll ss = .ok once ∧ ss ≠ [] ∧
        (store.execute ⟨1, some 10, 0⟩ ss (.ofStore .empty)).2.store.committed.length = 2 :=
    ⟨_, _, rfl, rfl, List.cons_ne_nil _ _, rfl⟩
  obtain ⟨once', applied', -, ends⟩ := WriteCall.converges .empty Registry.empty _ call built
  cases applied.symm.trans applied'
  have contract := Memory.slow_atLeastOnce (fun m => if m.transactions = 0 then 200 else 0)
    ⟨1, some 10, 0⟩ nonempty
  rcases ends Memory Memory.view _ _ (.ofStore .empty) contract rfl with
    ⟨idle, -⟩ | ⟨-, converged⟩
  · cases twice.symm.trans idle
  · exact ⟨ss, once, built, applied, twice, converged⟩

end RecordGraph
