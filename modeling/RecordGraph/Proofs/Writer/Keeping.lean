import RecordGraph.Proofs.Validation
import RecordGraph.Proofs.Writer.History

/-!
# What is kept of an entity

An entity is written without its property `urn`, which its node has of its own. So that property
is kept if it is the urn of the entity, and every other property is kept in any case. The
structural validator compares the urn with texts alone: a `urn` of another kind is accepted and
lost.
-/

namespace RecordGraph

/-- Every node has its own urn among its properties. -/
def Graph.OwnUrns (g : Graph) : Prop :=
  ∀ node m, g.node? node = some m → SortedMap.get? m Param.urn = some (.str node.urn)

namespace Graph.OwnUrns

variable {g : Graph}

theorem empty : Graph.empty.OwnUrns := by
  intro node m found
  cases found

/-- A node has its urn also if it is not there yet. -/
theorem present (own : g.OwnUrns) (node : NodeRef) :
    SortedMap.get? ((g.node? node).getD (placeholder node)) Param.urn = some (.str node.urn) := by
  cases found : g.node? node with
  | none => rfl
  | some m => exact own node m found

/-- What is found in a node after properties are merged into it, all but one with the name of
the urn. -/
theorem get?_merge_erase (own : g.OwnUrns) (node : NodeRef) (m : PropertyMap) (name : String) :
    SortedMap.get? (SortedMap.merge ((g.node? node).getD (placeholder node))
        (SortedMap.erase m Param.urn)) name =
      if name = Param.urn then some (.str node.urn)
      else (SortedMap.get? m name).or ((g.node? node).bind (SortedMap.get? · name)) := by
  rw [SortedMap.get?_merge, SortedMap.get?_erase]
  by_cases urn : name = Param.urn
  · rw [if_pos urn, if_pos urn, urn]
    exact own.present node
  · rw [if_neg urn, if_neg urn]
    cases g.node? node with
    | some old => rfl
    | none =>
        have absent : SortedMap.get? (placeholder node) name = none :=
          (SortedMap.get?_cons _ _ _ _).trans (if_neg urn)
        exact congrArg _ absent

theorem upsertAll (own : g.OwnUrns) {written : List (NodeRef × PropertyMap)}
    (unwritten : ∀ w ∈ written, SortedMap.get? w.2 Param.urn = none) :
    (g.upsertAll written).OwnUrns := by
  intro node m found
  rw [node?_upsertAll] at found
  split at found
  · cases found
    rw [SortedMap.get?_foldl_merge_of_absent fun x member =>
      unwritten _ (mem_of_mem_writtenTo member)]
    exact own.present node
  · exact own node m found

theorem deleteAll (own : g.OwnUrns) (deleted : List NodeRef) : (g.deleteAll deleted).OwnUrns := by
  intro node m found
  rw [node?_deleteAll] at found
  split at found
  · cases found
  · exact own node m found

theorem replace (own : g.OwnUrns) (policy : RemovalPolicy) (es : List Edge) :
    (g.replace policy es).OwnUrns := by
  intro node m found
  rw [node?_replace] at found
  rcases Option.or_eq_some_iff.mp found with old | ⟨-, new⟩
  · exact own node m old
  · split at new
    · cases new
      rfl
    · cases new

theorem unlinkAll (own : g.OwnUrns) (selections : List Selection) :
    (g.unlinkAll selections).OwnUrns := by
  rw [unlinkAll_eq]
  exact own

end Graph.OwnUrns

theorem WriteCall.effect_ownUrns (call : WriteCall) {registry : Registry} {g : Graph}
    (own : g.OwnUrns) : (call.effect registry g).OwnUrns := by
  cases call with
  | addEntities es =>
      refine own.upsertAll ?_
      intro w member
      obtain ⟨e, -, rfl⟩ := List.mem_map.mp member
      exact (SortedMap.get?_erase _ _ _).trans (if_pos rfl)
  | removeEntities us => exact own.deleteAll _
  | addRelationships policy rs => exact own.replace policy _
  | removeRelationships rs => exact own.unlinkAll _

namespace Memory

theorem Reachable.ownUrns {m : Memory} (reachable : Reachable m) : m.graph.OwnUrns := by
  refine reachable.induct Graph.OwnUrns.empty ?_
  intro registry validator call ss g own built
  exact call.effect_ownUrns own

variable {registry : Registry} {validator : Validator} {settings : WriterSettings}

theorem getNode_eq_node? (u : Urn) (world : World Memory) :
    ((writer registry validator settings).getNode u world).1 =
      .ok (world.store.graph.node? (registry.node u)) := by
  change Except.ok (world.store.graph.node? (registry.node u)).toList.head? = _
  rw [Option.head?_toList]

/-- The node of an entity that is written alone. -/
theorem node?_of_added {e : Entity} {s after : Scene Memory ν}
    (done : (writer registry validator settings).addEntities [e] s = (.ok (), after)) :
    after.world.store.graph.node? (registry.node e.urn) =
      some (SortedMap.merge
        ((s.world.store.graph.node? (registry.node e.urn)).getD
          (Graph.placeholder (registry.node e.urn)))
        (SortedMap.erase (Statement.carried e.properties) Param.urn)) := by
  have run : (WriteCall.addEntities [e]).run (writer registry validator settings) s =
      (.ok (), after) := done
  rw [graph_of_run run, WriteCall.node?_effect]
  simp [WriteCall.removes, WriteCall.mentions, WriteCall.gives]

/-- Under the urn of an entity that is accepted and written, a reader finds the urn, every other
property of the entity, and of what was there before the properties that the entity does not
have. Nothing of the entity is lost just if it has no `urn`, or one that is a text. -/
theorem addEntity_kept_iff {e : Entity} {s after : Scene Memory ν}
    (reachable : Reachable s.world.store) (accepted : Validator.structural.entity e = .ok ())
    (done : (writer registry validator settings).addEntities [e] s = (.ok (), after)) :
    ∃ row, ((writer registry validator settings).getNode e.urn after.world).1 = .ok (some row) ∧
      (∀ name, SortedMap.get? row name =
        if name = Param.urn then some (Statement.urnValue e.urn)
        else (SortedMap.get? (Statement.carried e.properties) name).or
          ((s.world.store.graph.node? (registry.node e.urn)).bind (SortedMap.get? · name))) ∧
      ((∀ name v, SortedMap.get? (Statement.carried e.properties) name = some v →
          SortedMap.get? row name = some v) ↔
        ∀ v, SortedMap.get? (Statement.carried e.properties) Param.urn = some v →
          ∃ text, v = .str text) := by
  have writable := Validator.structuralEntity_eq_ok_iff.mp accepted
  have lookups := reachable.ownUrns.get?_merge_erase (registry.node e.urn)
    (Statement.carried e.properties)
  refine ⟨_, (getNode_eq_node? e.urn after.world).trans (congrArg Except.ok (node?_of_added done)),
    lookups, ?_⟩
  constructor
  · intro kept v carries
    have found := (lookups Param.urn).symm.trans (kept Param.urn v carries)
    rw [if_pos rfl] at found
    exact ⟨e.urn.text, (Option.some.inj found).symm⟩
  · intro texts name v carries
    rw [lookups]
    by_cases urn : name = Param.urn
    · subst urn
      obtain ⟨text, rfl⟩ := texts v carries
      rw [if_pos rfl, writable.urn text carries]
      rfl
    · rw [if_neg urn, carries]
      rfl

/-- Ann has her new age, her own urn, and the name that she had before. -/
theorem addEntity_kept_iff_own :
    let old : Entity := ⟨.ann, .ok ⟨[("age", .int 35), ("name", .str "Ann")], rfl⟩⟩
    let new : Entity := ⟨.ann, .ok ⟨[("age", .int 36), ("urn", .str "urn:a:person:ann")], rfl⟩⟩
    let w := writer Registry.empty .structural .default
    let start : Scene Memory Unit := ⟨.ofStore empty, .ofListeners []⟩
    ∃ (before after : Scene Memory Unit) (row : PropertyMap),
      w.addEntities [old] start = (.ok (), before) ∧
      w.addEntities [new] before = (.ok (), after) ∧
      (w.getNode .ann after.world).1 = .ok (some row) ∧
      SortedMap.get? row "age" = some (.int 36) ∧
      SortedMap.get? row "urn" = some (.str "urn:a:person:ann") ∧
      SortedMap.get? row "name" = some (.str "Ann") := by
  intro old new w start
  have fresh : start.world.store.failures = [] := rfl
  obtain ⟨before, first, idle, -⟩ :=
    addEntities_of_idle .empty .structural .default [old] ⟨_, rfl⟩ fresh
  obtain ⟨after, second, -⟩ :=
    addEntities_of_idle .empty .structural .default [new] ⟨_, rfl⟩ idle
  obtain ⟨row, found, lookups, lossless⟩ :=
    addEntity_kept_iff (Reachable.empty.addEntities first) rfl second
  have own : SortedMap.get? (Statement.carried new.properties) "urn" =
      some (.str "urn:a:person:ann") := rfl
  have texts (v : PropertyValue)
      (carries : SortedMap.get? (Statement.carried new.properties) Param.urn = some v) :
      ∃ text, v = .str text :=
    ⟨_, Option.some.inj (carries.symm.trans own)⟩
  have keeps := lossless.mpr texts
  refine ⟨before, after, row, first, second, found, keeps "age" _ rfl, keeps "urn" _ own, ?_⟩
  have written := node?_of_added first
  have unsaid : SortedMap.get? (Statement.carried new.properties) "name" = none := rfl
  rw [lookups, if_neg (by decide), unsaid, written]
  rfl

/-- Ann is accepted with the number 5 for a urn, and reads back with her own. -/
theorem addEntity_loses_urn :
    let e : Entity := ⟨.ann, .ok ⟨[("urn", .int 5)], rfl⟩⟩
    let w := writer Registry.empty .structural .default
    let start : Scene Memory Unit := ⟨.ofStore empty, .ofListeners []⟩
    Validator.structural.entity e = .ok () ∧
      SortedMap.get? (Statement.carried e.properties) "urn" = some (.int 5) ∧
      ∃ (after : Scene Memory Unit) (row : PropertyMap),
        w.addEntities [e] start = (.ok (), after) ∧
        (w.getNode .ann after.world).1 = .ok (some row) ∧
        SortedMap.get? row "urn" = some (.str "urn:a:person:ann") := by
  intro e w start
  have fresh : start.world.store.failures = [] := rfl
  obtain ⟨after, done, -⟩ := addEntities_of_idle .empty .structural .default [e] ⟨_, rfl⟩ fresh
  have read := @getNode_eq_node? .empty .structural .default .ann after.world
  exact ⟨rfl, rfl, after, _, done, read.trans (congrArg Except.ok (node?_of_added done)), rfl⟩

end Memory

end RecordGraph
