import RecordGraph.SortedMap.Lemmas

/-!
# Merging many maps

Maps merged one after another give, under each key, the value of the last map that has the
key. Merging the same maps once more changes nothing.
-/

namespace RecordGraph.SortedMap

variable {κ : Type u} {ν : Type v} [Ord κ] [Std.LawfulEqOrd κ]

/-- What was there before the merges is found where none of the maps has the key. -/
theorem get?_foldl_merge [DecidableEq κ] (base : SortedMap κ ν) (maps : List (SortedMap κ ν))
    (k : κ) :
    get? (maps.foldl merge base) k = (get? (maps.foldl merge []) k).or (get? base k) := by
  induction maps generalizing base with
  | nil => rfl
  | cons m rest ih =>
      rw [List.foldl_cons, List.foldl_cons, ih (merge base m), ih (merge [] m), get?_merge,
        get?_merge]
      simp [get?, Option.or_assoc]

theorem get?_foldl_merge_of_absent [DecidableEq κ] {maps : List (SortedMap κ ν)} {k : κ}
    (absent : ∀ m ∈ maps, get? m k = none) (base : SortedMap κ ν) :
    get? (maps.foldl merge base) k = get? base k := by
  induction maps generalizing base with
  | nil => rfl
  | cons m rest ih =>
      have first : get? m k = none := absent m List.mem_cons_self
      rw [List.foldl_cons, ih (fun other later => absent other (List.mem_cons_of_mem _ later)),
        get?_merge, first]
      rfl

variable [Std.TransOrd κ]

theorem Sorted.foldl_merge {base : SortedMap κ ν} (sorted : Sorted base)
    (maps : List (SortedMap κ ν)) : Sorted (maps.foldl SortedMap.merge base) := by
  induction maps generalizing base with
  | nil => exact sorted
  | cons m rest ih => exact ih (sorted.merge m)

variable [DecidableEq κ]

theorem merge_empty {m : SortedMap κ ν} (sorted : Sorted m) : merge [] m = m := by
  refine ext_get? (Sorted.merge List.Pairwise.nil m) sorted ?_
  intro k
  rw [get?_merge]
  exact Option.or_none

theorem foldl_merge_again {base : SortedMap κ ν} (sorted : Sorted base)
    (maps : List (SortedMap κ ν)) :
    maps.foldl merge (maps.foldl merge base) = maps.foldl merge base := by
  have once : Sorted (maps.foldl merge base) := sorted.foldl_merge maps
  refine ext_get? (once.foldl_merge maps) once ?_
  intro k
  rw [get?_foldl_merge (maps.foldl merge base), get?_foldl_merge base, ← Option.or_assoc,
    Option.or_self]

end RecordGraph.SortedMap
