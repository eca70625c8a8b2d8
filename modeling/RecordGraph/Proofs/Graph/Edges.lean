import RecordGraph.Proofs.Graph.Lookups
import RecordGraph.Proofs.SortedMap.Merging

/-!
# Adding edges to a list of edges

An edge that is added goes to the end of the list, or into the edge with its key. Lists are
described by their keys in order and by the properties found under each key; for lists
without repeated keys the two say everything.
-/

namespace RecordGraph.Edge

/-- The properties of the edge with a key. -/
def lookup (edges : List Edge) (k : EdgeKey) : Option PropertyMap :=
  (edges.find? (·.key = k)).map Edge.properties

/-- Adds the properties to the edge with the same key, or the edge itself. -/
def put (edges : List Edge) (e : Edge) : List Edge :=
  if e.key ∈ edges.map Edge.key then
    edges.map fun x => if x.key = e.key then x.extend e.properties else x
  else edges ++ [e]

def putAll (edges added : List Edge) : List Edge := added.foldl put edges

/-- The properties that edges give to a key, one after another. -/
def given (added : List Edge) (k : EdgeKey) : List PropertyMap :=
  (added.filter (·.key = k)).map Edge.properties

theorem lookup_cons (e : Edge) (rest : List Edge) (k : EdgeKey) :
    lookup (e :: rest) k = if e.key = k then some e.properties else lookup rest k := by
  by_cases same : e.key = k <;> simp [lookup, same]

theorem lookup_isSome {edges : List Edge} {k : EdgeKey} :
    (lookup edges k).isSome = true ↔ k ∈ edges.map Edge.key := by
  simp [lookup]

theorem lookup_eq_none {edges : List Edge} {k : EdgeKey} :
    lookup edges k = none ↔ k ∉ edges.map Edge.key := by
  rw [← lookup_isSome, Bool.not_eq_true, Option.isSome_eq_false_iff, Option.isNone_iff_eq_none]

/-- Without repeated keys the edge with a key is the one that is found. -/
theorem lookup_of_mem {edges : List Edge} (unique : (edges.map Edge.key).Nodup) {e : Edge}
    (member : e ∈ edges) : lookup edges e.key = some e.properties := by
  induction edges with
  | nil => cases member
  | cons first rest ih =>
      obtain ⟨fresh, uniqueRest⟩ := List.nodup_cons.mp unique
      rw [lookup_cons]
      rcases List.mem_cons.mp member with here | later
      · rw [here, if_pos rfl]
      · have differs : first.key ≠ e.key := by
          intro same
          exact fresh (same ▸ List.mem_map_of_mem later)
        rw [if_neg differs]
        exact ih uniqueRest later

theorem mem_of_lookup {edges : List Edge} {k : EdgeKey} {m : PropertyMap}
    (found : lookup edges k = some m) : ∃ e ∈ edges, e.key = k ∧ e.properties = m := by
  obtain ⟨e, here, same⟩ := Option.map_eq_some_iff.mp found
  exact ⟨e, List.mem_of_find?_eq_some here, by simpa using List.find?_some here, same⟩

/-- Lists with the same keys in the same order and the same lookups are equal. -/
theorem ext_lookup {left right : List Edge} (unique : (left.map Edge.key).Nodup)
    (keys : left.map Edge.key = right.map Edge.key)
    (same : ∀ k, lookup left k = lookup right k) : left = right := by
  induction left generalizing right with
  | nil => exact (List.map_eq_nil_iff.mp keys.symm).symm
  | cons e rest ih =>
      cases right with
      | nil => cases keys
      | cons e' rest' =>
          obtain ⟨sameKey, sameKeys⟩ := List.cons.inj keys
          obtain ⟨fresh, uniqueRest⟩ := List.nodup_cons.mp unique
          have head : e = e' := by
            have here := same e.key
            rw [lookup_cons, lookup_cons, if_pos rfl, if_pos sameKey.symm] at here
            cases e
            cases e'
            simp_all [Edge.key]
          have tail : rest = rest' := by
            refine ih uniqueRest sameKeys ?_
            intro k
            by_cases atHead : e.key = k
            · rw [lookup_eq_none.mpr (atHead ▸ fresh),
                lookup_eq_none.mpr (atHead ▸ sameKeys ▸ fresh)]
            · have later := same k
              rwa [lookup_cons, lookup_cons, if_neg atHead, if_neg (sameKey ▸ atHead)] at later
          rw [head, tail]

theorem keys_put (edges : List Edge) (e : Edge) :
    (put edges e).map Edge.key =
      if e.key ∈ edges.map Edge.key then edges.map Edge.key
      else edges.map Edge.key ++ [e.key] := by
  unfold put
  split
  · rw [List.map_map]
    refine List.map_congr_left ?_
    intro x _
    by_cases same : x.key = e.key <;> simp [same]
  · rw [List.map_append]
    rfl

theorem mem_keys_put {edges : List Edge} {e : Edge} {k : EdgeKey} :
    k ∈ (put edges e).map Edge.key ↔ k ∈ edges.map Edge.key ∨ k = e.key := by
  rw [keys_put]
  split
  · constructor
    · exact Or.inl
    · rintro (old | rfl)
      · exact old
      · assumption
  · rw [List.mem_append, List.mem_singleton]

theorem nodup_keys_put {edges : List Edge} (unique : (edges.map Edge.key).Nodup) (e : Edge) :
    ((put edges e).map Edge.key).Nodup := by
  rw [keys_put]
  split
  · exact unique
  · rename_i fresh
    refine List.nodup_append.mpr ⟨unique, by simp, ?_⟩
    rintro k old _ last rfl
    exact fresh (List.mem_singleton.mp last ▸ old)

theorem lookup_put {edges : List Edge} {e : Edge} (sorted : SortedMap.Sorted e.properties)
    (k : EdgeKey) :
    lookup (put edges e) k =
      if k = e.key then some (SortedMap.merge ((lookup edges k).getD []) e.properties)
      else lookup edges k := by
  unfold put
  split
  · rename_i present
    have keep : ((fun x : Edge => decide (x.key = k)) ∘
        fun x => if x.key = e.key then x.extend e.properties else x) =
        fun x : Edge => decide (x.key = k) := by
      funext x
      by_cases same : x.key = e.key <;> simp [same]
    rw [lookup, List.find?_map, keep]
    cases found : edges.find? (·.key = k) with
    | none =>
        have absent : k ≠ e.key := by
          rintro rfl
          rw [← lookup_isSome, lookup, found] at present
          cases present
        rw [if_neg absent, lookup, found]
        rfl
    | some x =>
        have atKey : x.key = k := by simpa using List.find?_some found
        by_cases same : k = e.key
        · have added : x.key = e.key := atKey.trans same
          rw [if_pos same, lookup, found]
          simp [added, Edge.extend]
        · have apart : x.key ≠ e.key := fun added => same (atKey.symm.trans added)
          rw [if_neg same, lookup, found]
          simp [apart]
  · rename_i absent
    rw [lookup, List.find?_append]
    by_cases same : k = e.key
    · subst same
      have missing : edges.find? (·.key = e.key) = none := by
        simpa [lookup] using lookup_eq_none.mpr absent
      simp [lookup, missing, SortedMap.merge_empty sorted]
    · have other : e.key ≠ k := Ne.symm same
      simp [lookup, same, other]

theorem mem_keys_filter (p : EdgeKey → Bool) {edges : List Edge} {k : EdgeKey} :
    k ∈ (edges.filter fun x => p x.key).map Edge.key ↔
      k ∈ edges.map Edge.key ∧ p k = true := by
  simp only [List.mem_map, List.mem_filter]
  constructor
  · rintro ⟨x, ⟨member, holds⟩, rfl⟩
    exact ⟨⟨x, member, rfl⟩, holds⟩
  · rintro ⟨⟨x, member, rfl⟩, holds⟩
    exact ⟨x, ⟨member, holds⟩, rfl⟩

theorem lookup_filter (p : EdgeKey → Bool) (edges : List Edge) (k : EdgeKey) :
    lookup (edges.filter fun x => p x.key) k = if p k then lookup edges k else none := by
  induction edges with
  | nil => simp [lookup]
  | cons e rest ih =>
      rw [lookup_cons]
      cases holds : p e.key with
      | true =>
          simp only [List.filter_cons, holds, ↓reduceIte]
          rw [lookup_cons, ih]
          by_cases same : e.key = k
          · rw [if_pos same, if_pos same, ← same, holds, if_pos rfl]
          · rw [if_neg same, if_neg same]
      | false =>
          simp only [List.filter_cons, holds, Bool.false_eq_true, ↓reduceIte]
          rw [ih]
          by_cases same : e.key = k
          · rw [← same, holds]
            rfl
          · rw [if_neg same]

/-- A condition on keys selects the same edges before and after an edge is added. -/
theorem filter_put (p : EdgeKey → Bool) (edges : List Edge) (e : Edge) :
    (put edges e).filter (fun x => p x.key) =
      if p e.key then put (edges.filter fun x => p x.key) e
      else edges.filter fun x => p x.key := by
  have keep : ((fun x : Edge => p x.key) ∘
      fun x => if x.key = e.key then x.extend e.properties else x) = fun x => p x.key := by
    funext x
    by_cases same : x.key = e.key <;> simp [same]
  have selected := @mem_keys_filter p edges e.key
  cases holds : p e.key with
  | true =>
      rw [if_pos rfl]
      unfold put
      by_cases present : e.key ∈ edges.map Edge.key
      · rw [if_pos present, if_pos (selected.mpr ⟨present, holds⟩), List.filter_map, keep]
      · rw [if_neg present, if_neg fun inside => present (selected.mp inside).1,
          List.filter_append]
        simp [holds]
  | false =>
      rw [if_neg Bool.false_ne_true]
      unfold put
      split
      · rw [List.filter_map, keep]
        refine (List.map_congr_left ?_).trans (List.map_id _)
        intro x member
        have differs : x.key ≠ e.key := by
          intro same
          have := (List.mem_filter.mp member).2
          rw [same, holds] at this
          cases this
        rw [if_neg differs]
        rfl
      · rw [List.filter_append]
        simp [holds]

theorem filter_putAll (p : EdgeKey → Bool) (edges added : List Edge) :
    (putAll edges added).filter (fun x => p x.key) =
      putAll (edges.filter fun x => p x.key) (added.filter fun x => p x.key) := by
  induction added generalizing edges with
  | nil => rfl
  | cons e rest ih =>
      change (putAll (put edges e) rest).filter _ = _
      rw [ih, filter_put]
      cases holds : p e.key with
      | true =>
          simp only [List.filter_cons, holds, ↓reduceIte]
          rfl
      | false => simp only [List.filter_cons, holds, Bool.false_eq_true, ↓reduceIte]

theorem mem_keys_putAll {edges added : List Edge} {k : EdgeKey} :
    k ∈ (putAll edges added).map Edge.key ↔
      k ∈ edges.map Edge.key ∨ k ∈ added.map Edge.key := by
  induction added generalizing edges with
  | nil => simp [putAll]
  | cons e rest ih =>
      change k ∈ (putAll (put edges e) rest).map Edge.key ↔ _
      rw [ih, mem_keys_put, List.map_cons, List.mem_cons, or_assoc]

theorem nodup_keys_putAll {edges : List Edge} (unique : (edges.map Edge.key).Nodup)
    (added : List Edge) : ((putAll edges added).map Edge.key).Nodup := by
  induction added generalizing edges with
  | nil => exact unique
  | cons e rest ih => exact ih (nodup_keys_put unique e)

/-- Where every key is there already, none is added. -/
theorem keys_putAll_of_subset {edges added : List Edge}
    (inside : ∀ e ∈ added, e.key ∈ edges.map Edge.key) :
    (putAll edges added).map Edge.key = edges.map Edge.key := by
  induction added generalizing edges with
  | nil => rfl
  | cons e rest ih =>
      have kept : (put edges e).map Edge.key = edges.map Edge.key := by
        rw [keys_put, if_pos (inside e List.mem_cons_self)]
      change (putAll (put edges e) rest).map Edge.key = _
      rw [← kept]
      refine ih ?_
      intro x later
      rw [kept]
      exact inside x (List.mem_cons_of_mem _ later)

theorem given_eq_nil {added : List Edge} {k : EdgeKey} (absent : k ∉ added.map Edge.key) :
    given added k = [] := by
  simp only [given, List.map_eq_nil_iff, List.filter_eq_nil_iff, decide_eq_true_eq]
  intro e member same
  exact absent (same ▸ List.mem_map_of_mem member)

/-- Under the key of an added edge are found the old properties, with everything given to
the key merged into them. -/
theorem lookup_putAll {added : List Edge} (sorted : ∀ e ∈ added, SortedMap.Sorted e.properties)
    (edges : List Edge) (k : EdgeKey) :
    lookup (putAll edges added) k =
      if k ∈ added.map Edge.key then
        some ((given added k).foldl SortedMap.merge ((lookup edges k).getD []))
      else lookup edges k := by
  induction added generalizing edges with
  | nil => rfl
  | cons e rest ih =>
      change lookup (putAll (put edges e) rest) k = _
      rw [ih (fun x later => sorted x (List.mem_cons_of_mem _ later)),
        lookup_put (sorted e List.mem_cons_self)]
      by_cases same : k = e.key
      · subst same
        have first : given (e :: rest) e.key = e.properties :: given rest e.key := by
          simp [given]
        rw [if_pos rfl, first, List.foldl_cons, List.map_cons, if_pos List.mem_cons_self]
        split
        · rfl
        · rename_i absent
          rw [given_eq_nil absent]
          rfl
      · have skipped : given (e :: rest) k = given rest k := by
          simp [given, Ne.symm same]
        rw [if_neg same, skipped]
        simp [same]

/-- Adding edges keeps every kind of properties that merging keeps. -/
theorem forall_putAll {P : PropertyMap → Prop}
    (merge : ∀ {base extra}, P base → P extra → P (SortedMap.merge base extra))
    {edges added : List Edge} (old : ∀ e ∈ edges, P e.properties)
    (new : ∀ e ∈ added, P e.properties) : ∀ e ∈ putAll edges added, P e.properties := by
  induction added generalizing edges with
  | nil => exact old
  | cons first rest ih =>
      have atFirst : P first.properties := new first List.mem_cons_self
      refine ih ?_ (fun x later => new x (List.mem_cons_of_mem _ later))
      intro e member
      unfold put at member
      split at member
      · obtain ⟨x, here, rfl⟩ := List.mem_map.mp member
        split
        · exact merge (old x here) atFirst
        · exact old x here
      · rcases List.mem_append.mp member with here | last
        · exact old e here
        · exact List.mem_singleton.mp last ▸ atFirst

/-- Adding the same edges once more changes nothing. -/
theorem putAll_again {edges added : List Edge} (unique : (edges.map Edge.key).Nodup)
    (old : ∀ e ∈ edges, SortedMap.Sorted e.properties)
    (new : ∀ e ∈ added, SortedMap.Sorted e.properties) :
    putAll (putAll edges added) added = putAll edges added := by
  have keys : (putAll (putAll edges added) added).map Edge.key =
      (putAll edges added).map Edge.key := by
    refine keys_putAll_of_subset ?_
    intro e member
    exact mem_keys_putAll.mpr (.inr (List.mem_map_of_mem member))
  refine ext_lookup (nodup_keys_putAll (nodup_keys_putAll unique added) added) keys ?_
  intro k
  rw [lookup_putAll new (putAll edges added), lookup_putAll new edges]
  split
  · have sorted : SortedMap.Sorted ((lookup edges k).getD []) := by
      cases found : lookup edges k with
      | none => exact List.Pairwise.nil
      | some m =>
          obtain ⟨e, member, -, rfl⟩ := mem_of_lookup found
          exact old e member
    rw [Option.getD_some, SortedMap.foldl_merge_again sorted]
  · rfl

end RecordGraph.Edge

namespace RecordGraph.Graph

/-- With both nodes there, an edge is added to the list of edges. -/
theorem upsertEdge_of_hasNode {g : Graph} (e : Edge) (source : g.hasNode e.source = true)
    (destination : g.hasNode e.destination = true) :
    g.upsertEdge e.source e.destination e.relationship e.properties =
      ⟨g.nodes, Edge.put g.edges e⟩ := by
  have keyOf : (⟨e.source, e.destination, e.relationship⟩ : EdgeKey) = e.key := rfl
  have there : g.edges.any (·.connects e.source e.destination e.relationship) =
      decide (e.key ∈ g.edges.map Edge.key) := by
    rw [Bool.eq_iff_iff, List.any_eq_true, decide_eq_true_eq, List.mem_map]
    simp only [Edge.connects_eq, keyOf, decide_eq_true_eq]
  unfold upsertEdge Edge.put
  rw [source, destination, there]
  simp only [Edge.connects_eq, keyOf, decide_eq_true_eq, Bool.and_self, ↓reduceIte]
  split <;> rfl

theorem upsertEdge_of_missing {g : Graph} {source destination : NodeRef}
    (missing : ¬ (g.hasNode source = true ∧ g.hasNode destination = true))
    (relationship : String) (extra : PropertyMap) :
    g.upsertEdge source destination relationship extra = g := by
  refine if_neg ?_
  rw [Bool.and_eq_true]
  exact missing

end RecordGraph.Graph
