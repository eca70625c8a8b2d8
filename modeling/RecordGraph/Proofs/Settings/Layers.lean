import RecordGraph.Proofs.Settings.Names
import RecordGraph.SortedMap.Lemmas

/-!
# Sources on top of each other

Putting a value into a tree changes one entry of its first table, and what stands there afterwards
depends on nothing but the value, the rest of the path and what stood there before. So a value that
is put two tables deep stays what it is, whatever is put elsewhere before and after, and everything
else is as if it had never been put. The tree that results is put into an empty one once more,
which only does the same again below its keys.
-/

namespace RecordGraph.Settings.Node

/-- What stands under a key of a table. -/
def field? (t : Node) (key : String) : Option Node := SortedMap.get? t.tableFields.2 key

/-- A value in the place of another: a table is put into it, and anything else replaces it. -/
def onto (old : Option Node) : Node → Node
  | table _ extra => mergeFields (old.getD (table none [])) extra
  | v => v

/-- What stands at the first key of a path once a value is at its end. -/
def grown (v : Node) (old : Option Node) : List Step → Node
  | [] => v.onto old
  | step :: path => setAt v (old.getD nothing) (step :: path)

/-! ## One value -/

/-- Putting a value changes one entry of the first table. -/
theorem setAt_key (v t : Node) (key : String) (path : List Step) :
    setAt v t (.key key :: path) =
      table t.tableFields.1 (SortedMap.insert t.tableFields.2 (stored key path)
        (grown v (t.field? (stored key path)) path)) := by
  cases path with
  | nil => cases v <;> rfl
  | cons step path => rfl

theorem field?_setAt (v t : Node) (key : String) (path : List Step) (k : String) :
    (setAt v t (.key key :: path)).field? k =
      if k = stored key path then some (grown v (t.field? k) path) else t.field? k := by
  rw [setAt_key]
  simp only [field?, tableFields, SortedMap.get?_insert]
  split
  · rename_i same
    rw [same]
  · rfl

theorem setKey_eq_setAt (key : String) (t v : Node) : setKey key t v = setAt v t [.key key] := rfl

theorem put_eq {entry : String × Node} {path : List Step} (means : Step.ofName entry.1 = path)
    (t : Node) : t.put entry = setAt entry.2 t path := by
  rw [← means]
  rfl

/-! ## Tables in order -/

/-- The keys of a table are in order and in lower case. -/
structure Neat (t : Node) : Prop where
  sorted : SortedMap.Sorted t.tableFields.2
  lower : ∀ entry ∈ t.tableFields.2, lowerKey entry.1 = entry.1

theorem neat_of_fields_nil {t : Node} (bare : t.tableFields.2 = []) : t.Neat where
  sorted := bare ▸ List.Pairwise.nil
  lower := by simp [bare]

theorem Neat.setAt {t : Node} (neat : t.Neat) {key : String} {path : List Step}
    (lower : lowerKey (stored key path) = stored key path) (v : Node) :
    (setAt v t (.key key :: path)).Neat := by
  rw [setAt_key]
  refine ⟨neat.sorted.insert _ _, fun entry member => ?_⟩
  rcases SortedMap.mem_insert member with rfl | before
  · exact lower
  · exact neat.lower entry before

theorem Neat.mergeFields {t : Node} (neat : t.Neat) (extra : List (String × Node)) :
    (mergeFields t extra).Neat := by
  induction extra generalizing t with
  | nil => exact neat
  | cons entry rest ih =>
      have lower : lowerKey (stored entry.1 []) = stored entry.1 [] := lowerKey_lowerKey entry.1
      rw [Node.mergeFields, setKey_eq_setAt]
      exact ih (neat.setAt lower entry.2)

theorem neat_onto {v : Node} {old : Option Node} (neat : ∀ w, old = some w → w.Neat) :
    (v.onto old).Neat := by
  cases v with
  | leaf origin scalar => exact neat_of_fields_nil rfl
  | arr origin items => exact neat_of_fields_nil rfl
  | table origin extra =>
      cases old with
      | none => exact (neat_of_fields_nil rfl).mergeFields extra
      | some w => exact (neat w rfl).mergeFields extra

/-- Of a table in order, each value goes to its own key. -/
theorem field?_mergeFields {extra : List (String × Node)} (neat : (table none extra).Neat)
    (t : Node) (k : String) :
    (mergeFields t extra).field? k =
      match SortedMap.get? extra k with
      | some v => some (v.onto (t.field? k))
      | none => t.field? k := by
  induction extra generalizing t with
  | nil => rfl
  | cons entry rest ih =>
      obtain ⟨key, v⟩ := entry
      obtain ⟨below, sorted⟩ := List.pairwise_cons.mp neat.sorted
      have lower : lowerKey key = key := neat.lower (key, v) List.mem_cons_self
      have tail : (table none rest).Neat :=
        ⟨sorted, fun entry later => neat.lower entry (List.mem_cons_of_mem _ later)⟩
      have first : (setKey key t v).field? k =
          if k = key then some (v.onto (t.field? k)) else t.field? k := by
        rw [setKey_eq_setAt, field?_setAt, stored, lower]
        rfl
      rw [mergeFields, ih tail, first, SortedMap.get?_cons]
      by_cases same : k = key
      · subst same
        simp only [↓reduceIte, SortedMap.get?_eq_none_of_below below]
      · simp only [if_neg same]

/-- Putting the values of a table in order into an empty one puts each into nothing. -/
theorem field?_onto_none {v : Node} (neat : v.Neat) (k : String) :
    (v.onto none).field? k = (v.field? k).map (onto none) := by
  cases v with
  | leaf origin scalar => rfl
  | arr origin items => rfl
  | table origin extra =>
      have nested : (table none extra).Neat := ⟨neat.sorted, neat.lower⟩
      have stands : (table origin extra).field? k = SortedMap.get? extra k := rfl
      rw [onto, Option.getD_none, field?_mergeFields nested, stands]
      cases SortedMap.get? extra k <;> rfl

/-! ## Many values -/

/-- A tree into which sources were put: the keys of its first two tables are in order and in lower
case, and those of the first stay what they are. -/
structure Stacked (t : Node) : Prop where
  neat : t.Neat
  settled : ∀ entry ∈ t.tableFields.2, Settled entry.1
  inner : ∀ k v, t.field? k = some v → v.Neat

theorem stacked_empty : (table none []).Stacked where
  neat := neat_of_fields_nil rfl
  settled _ member := absurd member List.not_mem_nil
  inner _ _ found := by cases found

theorem Stacked.put {t : Node} (stacked : t.Stacked) {entry : String × Node}
    (plain : Plain entry.1) : (t.put entry).Stacked := by
  obtain ⟨key, path, means, settled, second⟩ := plain.settled
  rw [put_eq means]
  refine ⟨stacked.neat.setAt settled.lower entry.2, ?_, ?_⟩
  · rw [setAt_key]
    intro other member
    rcases SortedMap.mem_insert member with rfl | before
    · exact settled
    · exact stacked.settled other before
  · intro k v found
    rw [field?_setAt] at found
    split at found
    · cases found
      cases path with
      | nil => exact neat_onto (stacked.inner k)
      | cons step path =>
          cases step with
          | index i => exact neat_of_fields_nil (by cases path <;> rfl)
          | key b =>
              have old : ((t.field? k).getD nothing).Neat := by
                cases before : t.field? k with
                | none => exact neat_of_fields_nil rfl
                | some w => exact stacked.inner k w before
              exact old.setAt (second b path rfl) entry.2
    · exact stacked.inner k v found

theorem Stacked.foldl {t : Node} (stacked : t.Stacked) {entries : List (String × Node)}
    (plain : ∀ entry ∈ entries, Plain entry.1) : (entries.foldl Node.put t).Stacked := by
  induction entries generalizing t with
  | nil => exact stacked
  | cons entry rest ih =>
      exact ih (stacked.put (plain entry List.mem_cons_self)) fun other later =>
        plain other (List.mem_cons_of_mem _ later)

theorem foldl_put_of_settled {entries : List (String × Node)}
    (settled : ∀ entry ∈ entries, Settled entry.1) (t : Node) :
    entries.foldl put t = mergeFields t entries := by
  induction entries generalizing t with
  | nil => rfl
  | cons entry rest ih =>
      rw [List.foldl_cons, put_eq (settled entry List.mem_cons_self).alone, mergeFields,
        setKey_eq_setAt]
      exact ih (fun other later => settled other (List.mem_cons_of_mem _ later)) _

/-- The tree into which all sources were put is put into an empty one as a whole. -/
theorem field?_layered {sources : List (List (String × Node))}
    (plain : ∀ entry ∈ sources.flatten, Plain entry.1) (k : String) :
    (table none (layered sources)).field? k =
      ((sources.flatten.foldl put (table none [])).field? k).map (onto none) := by
  have stacked : (sources.flatten.foldl put (table none [])).Stacked := stacked_empty.foldl plain
  rw [← field?_onto_none stacked.neat k, layered, foldl_put_of_settled stacked.settled]
  cases sources.flatten.foldl put (table none []) <;> rfl

/-! ## A value on top -/

/-- One tree has a value two tables deep, and everything else as another tree has it. -/
structure Adds (outer inner : String) (v t t' : Node) : Prop where
  elsewhere : ∀ k, k ≠ outer → t'.field? k = t.field? k
  here : ∃ w, t'.field? outer = some w ∧ w.field? inner = some v ∧
    ∀ k, k ≠ inner → w.field? k = ((t.field? outer).getD nothing).field? k

/-- A name that leads to another place than a key inside the table of another key. -/
def Apart (outer inner name : String) : Prop :=
  ∀ rest, Step.ofName name = .key outer :: rest → ∃ b more, rest = .key b :: more ∧ b ≠ inner

variable {outer inner : String} {v t t' : Node}

theorem adds_setAt {origin : Option String} {scalar : Scalar} (low : lowerKey inner = inner)
    (t : Node) :
    Adds outer inner (leaf origin scalar) t
      (setAt (leaf origin scalar) t [.key outer, .key inner]) where
  elsewhere k other := by
    rw [field?_setAt]
    exact if_neg other
  here := by
    refine ⟨setAt (leaf origin scalar) ((t.field? outer).getD nothing) [.key inner], ?_, ?_, ?_⟩
    · rw [field?_setAt]
      exact if_pos rfl
    · rw [field?_setAt, stored, low]
      exact if_pos rfl
    · intro k other
      rw [field?_setAt, stored, low]
      exact if_neg other

/-- A value that is put elsewhere leaves the one on top alone. -/
theorem Adds.put (adds : Adds outer inner v t t') {entry : String × Node}
    (low : lowerKey entry.1 = entry.1) (apart : Apart outer inner entry.1) :
    Adds outer inner v (t.put entry) (t'.put entry) := by
  obtain ⟨key, path, means, -, -⟩ := (plain_of_lower low).settled
  have lower : ∀ k, Step.key k ∈ Step.key key :: path → lowerKey k = k := by
    intro k member
    exact Step.lower_of_mem_ofName low (means ▸ member)
  have first : stored key path = key := stored_of_lower (lower key List.mem_cons_self) path
  rw [put_eq means, put_eq means]
  refine ⟨fun k other => ?_, ?_⟩
  · rw [field?_setAt, field?_setAt, adds.elsewhere k other]
  · obtain ⟨w, found, top, others⟩ := adds.here
    by_cases same : outer = key
    · subst same
      obtain ⟨b, more, rfl, differs⟩ := apart path means
      have second : stored b more = b :=
        stored_of_lower (lower b (List.mem_cons_of_mem _ List.mem_cons_self)) more
      refine ⟨setAt entry.2 w (.key b :: more), ?_, ?_, fun k other => ?_⟩
      · rw [field?_setAt, first, if_pos rfl, found]
        rfl
      · rw [field?_setAt, second, if_neg (Ne.symm differs), top]
      · have grows : (setAt entry.2 t (.key outer :: .key b :: more)).field? outer =
            some (setAt entry.2 ((t.field? outer).getD nothing) (.key b :: more)) := by
          rw [field?_setAt, first, if_pos rfl]
          rfl
        rw [grows, Option.getD_some, field?_setAt, field?_setAt, others k other]
    · have stays : ∀ u : Node, (setAt entry.2 u (.key key :: path)).field? outer =
          u.field? outer := by
        intro u
        rw [field?_setAt, first, if_neg same]
      refine ⟨w, (stays t').trans found, top, fun k other => ?_⟩
      rw [stays t]
      exact others k other

theorem Adds.foldl (adds : Adds outer inner v t t') {entries : List (String × Node)}
    (low : ∀ entry ∈ entries, lowerKey entry.1 = entry.1)
    (apart : ∀ entry ∈ entries, Apart outer inner entry.1) :
    Adds outer inner v (entries.foldl Node.put t) (entries.foldl Node.put t') := by
  induction entries generalizing t t' with
  | nil => exact adds
  | cons entry rest ih =>
      have next := adds.put (low entry List.mem_cons_self) (apart entry List.mem_cons_self)
      exact ih next (fun other later => low other (List.mem_cons_of_mem _ later))
        fun other later => apart other (List.mem_cons_of_mem _ later)

/-- A scalar stays on top of what is put into a tree before it and, elsewhere, after it. -/
theorem adds_foldl {earlier later : List (String × Node)} {name : String}
    {origin : Option String} {scalar : Scalar} (low : lowerKey name = name)
    (means : Step.ofName name = [.key outer, .key inner])
    (lows : ∀ entry ∈ later, lowerKey entry.1 = entry.1)
    (apart : ∀ entry ∈ later, Apart outer inner entry.1) (t : Node) :
    Adds outer inner (leaf origin scalar) ((earlier ++ later).foldl put t)
      ((earlier ++ (name, leaf origin scalar) :: later).foldl put t) := by
  have innerLow : lowerKey inner = inner :=
    Step.lower_of_mem_ofName low (by rw [means]; simp)
  have placed := @put_eq (name, leaf origin scalar) _ means
  rw [List.foldl_append, List.foldl_append, List.foldl_cons, placed]
  exact (adds_setAt innerLow _).foldl lows apart

/-- What one tree has on top of another, the trees of all sources have. -/
theorem Adds.layered {sources sources' : List (List (String × Node))}
    (adds : Adds outer inner v (sources.flatten.foldl Node.put (table none []))
      (sources'.flatten.foldl Node.put (table none [])))
    (plain : ∀ entry ∈ sources.flatten, Plain entry.1)
    (plain' : ∀ entry ∈ sources'.flatten, Plain entry.1) :
    Adds outer inner (v.onto none) (table none (layered sources))
      (table none (layered sources')) := by
  have stacked := stacked_empty.foldl plain
  have stacked' := stacked_empty.foldl plain'
  refine ⟨fun k other => ?_, ?_⟩
  · rw [field?_layered plain', field?_layered plain, adds.elsewhere k other]
  · obtain ⟨w, found, top, others⟩ := adds.here
    have neat : w.Neat := stacked'.inner outer w found
    refine ⟨w.onto none, ?_, ?_, fun k other => ?_⟩
    · rw [field?_layered plain', found]
      rfl
    · rw [field?_onto_none neat, top]
      rfl
    · rw [field?_onto_none neat, others k other, field?_layered plain]
      cases stands : (sources.flatten.foldl Node.put (table none [])).field? outer with
      | none => rfl
      | some u => exact (field?_onto_none (stacked.inner outer u stands) k).symm

end RecordGraph.Settings.Node
