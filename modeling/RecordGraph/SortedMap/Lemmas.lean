import RecordGraph.SortedMap

/-!
# Lookups after each operation on a sorted map

Insertion, removal and merging are described by what a lookup finds afterwards, and each
keeps the keys sorted. In a sorted map what is found is what is stored, and `ext_get?` turns
equal lookups into equal maps.
-/

namespace RecordGraph.SortedMap

variable {κ : Type u} {ν : Type v} [Ord κ]

theorem merge_nil (base : SortedMap κ ν) : merge base [] = base := rfl

theorem merge_cons (base : SortedMap κ ν) (k : κ) (v : ν) (rest : SortedMap κ ν) :
    merge base ((k, v) :: rest) = insert (merge base rest) k v := rfl

theorem mem_insert {m : SortedMap κ ν} {k : κ} {v : ν} {entry : κ × ν}
    (member : entry ∈ insert m k v) : entry = (k, v) ∨ entry ∈ m := by
  induction m with
  | nil => simpa [insert] using member
  | cons head rest ih =>
      obtain ⟨key, value⟩ := head
      cases order : compare k key <;> simp only [insert, order, List.mem_cons] at member ⊢
      · exact member
      · exact member.imp id Or.inr
      · rcases member with here | later
        · exact .inr (.inl here)
        · exact (ih later).imp id .inr

/-- Merging brings in nothing that neither of the two maps has. -/
theorem mem_merge {base extra : SortedMap κ ν} {entry : κ × ν}
    (member : entry ∈ merge base extra) : entry ∈ extra ∨ entry ∈ base := by
  induction extra with
  | nil => exact .inr member
  | cons first rest ih =>
      rcases mem_insert member with here | later
      · exact .inl (here ▸ List.mem_cons_self)
      · exact (ih later).imp (List.mem_cons_of_mem _) id

theorem mem_of_mem_foldl_insert {entries : List (κ × ν)} {m : SortedMap κ ν} {entry : κ × ν}
    (member : entry ∈ entries.foldl (fun m e => insert m e.1 e.2) m) :
    entry ∈ entries ∨ entry ∈ m := by
  induction entries generalizing m with
  | nil => exact .inr member
  | cons first rest ih =>
      rcases ih member with later | inserted
      · exact .inl (List.mem_cons_of_mem _ later)
      · rcases mem_insert inserted with here | before
        · exact .inl (here ▸ List.mem_cons_self)
        · exact .inr before

theorem mem_of_mem_ofList {entries : List (κ × ν)} {entry : κ × ν}
    (member : entry ∈ ofList entries) : entry ∈ entries :=
  (mem_of_mem_foldl_insert member).resolve_right List.not_mem_nil

theorem erase_sublist (m : SortedMap κ ν) (k : κ) : List.Sublist (erase m k) m :=
  List.filter_sublist

theorem Sorted.erase {m : SortedMap κ ν} (sorted : Sorted m) (k : κ) : Sorted (erase m k) :=
  List.Pairwise.sublist (erase_sublist m k) sorted

section Oriented

variable [Std.OrientedOrd κ]

/-- An entry whose key is above all others goes to the end. -/
theorem insert_of_above {m : SortedMap κ ν} {k : κ}
    (above : ∀ entry ∈ m, compare entry.1 k = .lt) (v : ν) : insert m k v = m ++ [(k, v)] := by
  induction m with
  | nil => rfl
  | cons head rest ih =>
      obtain ⟨key, value⟩ := head
      have order : compare k key = .gt :=
        Std.OrientedCmp.gt_of_lt (above (key, value) List.mem_cons_self)
      simp only [insert, order]
      rw [ih fun entry later => above entry (List.mem_cons_of_mem _ later)]
      rfl

theorem foldl_insert_of_sorted {m : SortedMap κ ν} {entries : List (κ × ν)}
    (sorted : Sorted (m ++ entries)) :
    entries.foldl (fun m e => insert m e.1 e.2) m = m ++ entries := by
  induction entries generalizing m with
  | nil => exact (List.append_nil m).symm
  | cons entry rest ih =>
      have above : ∀ other ∈ m, compare other.1 entry.1 = .lt := by
        intro other member
        exact (List.pairwise_append.1 sorted).2.2 other member entry List.mem_cons_self
      have moved : m ++ entry :: rest = (m ++ [entry]) ++ rest := List.append_cons m entry rest
      rw [List.foldl_cons, insert_of_above above, moved]
      exact ih (moved ▸ sorted)

/-- Entries in order are a map as they stand. -/
theorem ofList_of_sorted {m : SortedMap κ ν} (sorted : Sorted m) : ofList m = m :=
  foldl_insert_of_sorted (m := []) sorted

end Oriented

section Lawful

variable [Std.LawfulEqOrd κ]

theorem isEq_compare {a b : κ} : (compare a b).isEq = true ↔ a = b := by
  rw [Ordering.isEq_iff_eq_eq, Std.LawfulEqOrd.compare_eq_iff_eq]

theorem compare_self (a : κ) : compare a a = .eq := Std.LawfulEqOrd.compare_eq_iff_eq.2 rfl

theorem ne_of_lt {a b : κ} (less : compare a b = .lt) : a ≠ b := by
  rintro rfl
  rw [compare_self] at less
  cases less

section Transitive

variable [Std.TransOrd κ]

theorem Sorted.insert {m : SortedMap κ ν} (sorted : Sorted m) (k : κ) (v : ν) :
    Sorted (insert m k v) := by
  induction m with
  | nil => simp [SortedMap.insert, Sorted]
  | cons head rest ih =>
      obtain ⟨key, value⟩ := head
      obtain ⟨below, tail⟩ := List.pairwise_cons.1 sorted
      cases order : compare k key with
      | lt =>
          simp only [SortedMap.insert, order]
          refine List.pairwise_cons.2 ⟨fun entry member => ?_, sorted⟩
          rcases List.mem_cons.1 member with here | later
          · exact here ▸ order
          · exact Std.TransCmp.lt_trans order (below entry later)
      | eq =>
          have same : k = key := Std.LawfulEqOrd.compare_eq_iff_eq.1 order
          simp only [SortedMap.insert, order]
          exact List.pairwise_cons.2 ⟨fun entry member => same ▸ below entry member, tail⟩
      | gt =>
          simp only [SortedMap.insert, order]
          refine List.pairwise_cons.2 ⟨fun entry member => ?_, ih tail⟩
          rcases mem_insert member with here | later
          · exact here ▸ Std.OrientedCmp.lt_of_gt order
          · exact below entry later

theorem Sorted.merge {base : SortedMap κ ν} (sorted : Sorted base) (extra : SortedMap κ ν) :
    Sorted (merge base extra) := by
  induction extra with
  | nil => exact sorted
  | cons entry rest ih => exact ih.insert entry.1 entry.2

theorem Sorted.foldl_insert {m : SortedMap κ ν} (sorted : Sorted m) (entries : List (κ × ν)) :
    Sorted (entries.foldl (fun m e => SortedMap.insert m e.1 e.2) m) := by
  induction entries generalizing m with
  | nil => exact sorted
  | cons entry rest ih => exact ih (sorted.insert entry.1 entry.2)

theorem Sorted.ofList (entries : List (κ × ν)) : Sorted (SortedMap.ofList entries) :=
  Sorted.foldl_insert List.Pairwise.nil entries

/-- Increasing lists with the same members are equal. -/
theorem eq_of_increasing {xs ys : List κ} (left : xs.Pairwise fun a b => compare a b = .lt)
    (right : ys.Pairwise fun a b => compare a b = .lt) (same : ∀ a, a ∈ xs ↔ a ∈ ys) :
    xs = ys := by
  have permuted : xs.Perm ys :=
    (List.perm_ext_iff_of_nodup (left.imp ne_of_lt) (right.imp ne_of_lt)).mpr same
  refine permuted.eq_of_pairwise ?_ left right
  intro a b _ _ less greater
  cases (Std.OrientedCmp.gt_of_lt greater).symm.trans less

end Transitive

variable [DecidableEq κ]

theorem get?_cons (key : κ) (value : ν) (rest : SortedMap κ ν) (k : κ) :
    get? ((key, value) :: rest) k = if k = key then some value else get? rest k := by
  by_cases same : k = key
  · simp [get?, same]
  · have differs : (compare k key).isEq = false := by
      simpa using mt isEq_compare.1 same
    simp [get?, differs, same]

theorem get?_insert (m : SortedMap κ ν) (k : κ) (v : ν) (j : κ) :
    get? (insert m k v) j = if j = k then some v else get? m j := by
  induction m with
  | nil => simp [insert, get?_cons, get?]
  | cons entry rest ih =>
      obtain ⟨key, value⟩ := entry
      cases order : compare k key with
      | lt => simp only [insert, order, get?_cons]
      | eq =>
          have same : k = key := Std.LawfulEqOrd.compare_eq_iff_eq.1 order
          subst same
          simp only [insert, order, get?_cons]
          split <;> rfl
      | gt =>
          have differs : k ≠ key := by
            rintro rfl
            rw [compare_self] at order
            cases order
          simp only [insert, order, get?_cons, ih]
          by_cases atKey : j = key
          · subst atKey
            simp [Ne.symm differs]
          · simp [atKey]

theorem mem_keys_iff {m : SortedMap κ ν} {k : κ} : k ∈ keys m ↔ (get? m k).isSome = true := by
  induction m with
  | nil => simp [keys, get?]
  | cons entry rest ih =>
      rw [get?_cons, keys, List.map_cons, List.mem_cons, ← keys, ih]
      by_cases same : k = entry.1 <;> simp [same]

/-- A map of entries has the keys of the entries. -/
theorem get?_foldl_insert_isSome {entries : List (κ × ν)} {m : SortedMap κ ν} {k : κ} :
    (get? (entries.foldl (fun m e => insert m e.1 e.2) m) k).isSome = true ↔
      (get? m k).isSome = true ∨ k ∈ entries.map Prod.fst := by
  induction entries generalizing m with
  | nil => simp
  | cons entry rest ih =>
      rw [List.foldl_cons, ih, get?_insert, List.map_cons, List.mem_cons]
      by_cases same : k = entry.1 <;> simp [same]

theorem get?_eq_none_of_below {m : SortedMap κ ν} {k : κ}
    (below : ∀ entry ∈ m, compare k entry.1 = .lt) : get? m k = none := by
  induction m with
  | nil => rfl
  | cons entry rest ih =>
      obtain ⟨key, value⟩ := entry
      rw [get?_cons, if_neg (ne_of_lt (below _ List.mem_cons_self))]
      exact ih fun other member => below other (List.mem_cons_of_mem _ member)

theorem get?_merge (base extra : SortedMap κ ν) (k : κ) :
    get? (merge base extra) k = (get? extra k).or (get? base k) := by
  induction extra with
  | nil => simp [get?, merge]
  | cons entry rest ih =>
      obtain ⟨key, value⟩ := entry
      rw [merge_cons, get?_insert, get?_cons, ih]
      by_cases same : k = key <;> simp [same]

theorem get?_erase (m : SortedMap κ ν) (k j : κ) :
    get? (erase m k) j = if j = k then none else get? m j := by
  induction m with
  | nil => simp [erase, get?]
  | cons entry rest ih =>
      obtain ⟨key, value⟩ := entry
      have erased : erase ((key, value) :: rest) k =
          if k = key then erase rest k else (key, value) :: erase rest k := by
        by_cases same : k = key
        · simp [erase, same]
        · have differs : (compare k key).isEq = false := by
            simpa using mt isEq_compare.1 same
          simp [erase, same, differs]
      rw [erased, get?_cons]
      by_cases same : k = key
      · subst same
        rw [if_pos rfl, ih]
        by_cases atKey : j = k <;> simp [atKey]
      · rw [if_neg same, get?_cons, ih]
        by_cases atKey : j = key
        · subst atKey
          simp [Ne.symm same]
        · simp [atKey]

theorem mem_of_get? {m : SortedMap κ ν} {k : κ} {v : ν} (found : get? m k = some v) :
    (k, v) ∈ m := by
  induction m with
  | nil => cases found
  | cons entry rest ih =>
      obtain ⟨key, value⟩ := entry
      rw [get?_cons] at found
      split at found
      · rename_i same
        cases same
        cases found
        exact List.mem_cons_self
      · exact List.mem_cons_of_mem _ (ih found)

/-- The values stored under a key are what is found there. -/
theorem values_eq_get? {m : SortedMap κ ν} (sorted : Sorted m) (k : κ) :
    (m.filter fun entry => entry.1 = k).map Prod.snd = (get? m k).toList := by
  induction m with
  | nil => rfl
  | cons entry rest ih =>
      obtain ⟨key, value⟩ := entry
      obtain ⟨below, tail⟩ := List.pairwise_cons.1 sorted
      rw [get?_cons]
      by_cases same : k = key
      · subst same
        have once : rest.filter (fun entry => entry.1 = k) = [] := by
          rw [List.filter_eq_nil_iff]
          intro other later
          simpa using (ne_of_lt (below other later)).symm
        simp [once]
      · simpa [same, Ne.symm same] using ih tail

/-- What a sorted map stores is found. -/
theorem get?_eq_some_iff {m : SortedMap κ ν} (sorted : Sorted m) {k : κ} {v : ν} :
    get? m k = some v ↔ (k, v) ∈ m := by
  refine ⟨mem_of_get?, ?_⟩
  intro member
  have stored : v ∈ (m.filter fun entry => entry.1 = k).map Prod.snd := by
    simpa using member
  rw [values_eq_get? sorted] at stored
  exact Option.mem_toList.mp stored

variable [Std.TransOrd κ]

/-- Sorted maps with the same lookups are equal. -/
theorem ext_get? {m n : SortedMap κ ν} (left : Sorted m) (right : Sorted n)
    (same : ∀ k, get? m k = get? n k) : m = n := by
  induction m generalizing n with
  | nil =>
      cases n with
      | nil => rfl
      | cons entry rest =>
          have := same entry.1
          simp [get?] at this
  | cons entry rest ih =>
      obtain ⟨key, value⟩ := entry
      obtain ⟨below, tail⟩ := List.pairwise_cons.1 left
      cases n with
      | nil =>
          have := same key
          simp [get?] at this
      | cons other others =>
          obtain ⟨key', value'⟩ := other
          obtain ⟨below', tail'⟩ := List.pairwise_cons.1 right
          have keysEqual : key = key' := by
            cases order : compare key key' with
            | eq => exact Std.LawfulEqOrd.compare_eq_iff_eq.1 order
            | lt =>
                have absent : get? ((key', value') :: others) key = none :=
                  get?_eq_none_of_below fun e member => by
                    rcases List.mem_cons.1 member with here | later
                    · exact here ▸ order
                    · exact Std.TransCmp.lt_trans order (below' e later)
                rw [← same key, get?_cons, if_pos rfl] at absent
                cases absent
            | gt =>
                have order' : compare key' key = .lt := Std.OrientedCmp.lt_of_gt order
                have absent : get? ((key, value) :: rest) key' = none :=
                  get?_eq_none_of_below fun e member => by
                    rcases List.mem_cons.1 member with here | later
                    · exact here ▸ order'
                    · exact Std.TransCmp.lt_trans order' (below e later)
                rw [same key', get?_cons, if_pos rfl] at absent
                cases absent
          subst keysEqual
          have values : value = value' := by
            have := same key
            simpa [get?_cons] using this
          subst values
          have tails : rest = others := ih tail tail' fun k => by
            have := same k
            rw [get?_cons, get?_cons] at this
            by_cases atKey : k = key
            · subst atKey
              rw [get?_eq_none_of_below below, get?_eq_none_of_below below']
            · simpa [atKey] using this
          rw [tails]

/-- A sorted map is made of its entries in any order. -/
theorem ofList_of_perm {entries : List (κ × ν)} {m : SortedMap κ ν} (sorted : Sorted m)
    (same : entries.Perm m) : ofList entries = m := by
  refine ext_get? (Sorted.ofList entries) sorted fun k => ?_
  have present : (get? (ofList entries) k).isSome = true ↔ (get? m k).isSome = true := by
    rw [ofList, get?_foldl_insert_isSome, ← mem_keys_iff (m := m), (same.map Prod.fst).mem_iff]
    simp [get?, keys]
  cases found : get? (ofList entries) k with
  | none =>
      rw [found] at present
      cases there : get? m k with
      | none => rfl
      | some v =>
          rw [there] at present
          cases present.mpr rfl
  | some v =>
      have member := same.mem_iff.mp (mem_of_mem_ofList (mem_of_get? found))
      exact ((get?_eq_some_iff sorted).mpr member).symm

end Lawful

end RecordGraph.SortedMap
