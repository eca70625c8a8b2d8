/-!
# Maps as sorted lists of entries

A map is the list of its entries in strictly increasing order of key, and every operation
keeps that order. What a lookup finds after an operation is the same for any list of
entries. Two sorted lists with the same lookups are the same list, so equality of maps is
equality of lists.
-/

namespace RecordGraph

/-- The entries of a map, in increasing order of key. -/
abbrev SortedMap (κ : Type u) (ν : Type v) := List (κ × ν)

namespace SortedMap

variable {κ : Type u} {ν : Type v} [Ord κ]

/-- The value stored under a key. -/
def get? : SortedMap κ ν → κ → Option ν
  | [], _ => none
  | (key, value) :: rest, k => if (compare k key).isEq then some value else get? rest k

/-- Whether a key is present. -/
def contains (m : SortedMap κ ν) (k : κ) : Bool := (get? m k).isSome

/-- Stores a value, replacing the one that the key had. -/
def insert : SortedMap κ ν → κ → ν → SortedMap κ ν
  | [], k, v => [(k, v)]
  | (key, value) :: rest, k, v =>
      match compare k key with
      | .lt => (k, v) :: (key, value) :: rest
      | .eq => (k, v) :: rest
      | .gt => (key, value) :: insert rest k v

/-- Removes a key; a key that is absent changes nothing. -/
def erase (m : SortedMap κ ν) (k : κ) : SortedMap κ ν :=
  m.filter fun entry => !(compare k entry.1).isEq

/-- Adds every entry of `extra` to `base`; where both have a key, `extra` wins. -/
def merge (base extra : SortedMap κ ν) : SortedMap κ ν :=
  extra.foldr (fun entry m => insert m entry.1 entry.2) base

/-- The map of a list of entries; of two entries with one key the later wins. -/
def ofList (entries : List (κ × ν)) : SortedMap κ ν :=
  entries.foldl (fun m entry => insert m entry.1 entry.2) []

/-- The keys in increasing order. -/
def keys (m : SortedMap κ ν) : List κ := m.map Prod.fst

/-- Keys increase strictly from each entry to every later one. -/
def Sorted (m : SortedMap κ ν) : Prop :=
  m.Pairwise fun a b => compare a.1 b.1 = .lt

instance (m : SortedMap κ ν) : Decidable (Sorted m) :=
  inferInstanceAs (Decidable (m.Pairwise fun a b => compare a.1 b.1 = .lt))

end SortedMap

end RecordGraph
