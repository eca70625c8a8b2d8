import Mathlib.Data.List.TakeWhile
import RecordGraph.Settings.Source

/-!
# Names of settings

A name is read as a path where it is put into a tree, and in lower case it becomes a key there.
Both happen twice to what the sources say: once when a source is put on top of the others, and
once more to the tree that results. The second time changes nothing if the keys of that tree are
in lower case and no paths of several steps.
-/

namespace RecordGraph.Settings

namespace Node

/-! ## Lower case -/

def lowerChar (c : Char) : Char := if c = '\u212a' then 'k' else c.toLower

theorem toList_lowerKey (key : String) : (lowerKey key).toList = key.toList.map lowerChar :=
  String.toList_ofList

/-- Only capital letters and the sign of the kelvin have a lower case. -/
theorem lowerChar_cases (c : Char) :
    lowerChar c = c ∨ c = '\u212a' ∨ ∃ n : Fin 26, c = Char.ofNat (65 + n) := by
  by_cases kelvin : c = '\u212a'
  · exact .inr (.inl kelvin)
  by_cases capital : 'A'.val ≤ c.val ∧ c.val ≤ 'Z'.val
  · have first : 65 ≤ c.toNat := capital.1
    have last : c.toNat ≤ 90 := capital.2
    have place : 65 + (c.toNat - 65) = c.toNat := by omega
    refine .inr (.inr ⟨⟨c.toNat - 65, by omega⟩, ?_⟩)
    rw [place, Char.ofNat_toNat]
  · exact .inl ((if_neg kelvin).trans (dif_neg capital))

theorem lowerChar_lowerChar (c : Char) : lowerChar (lowerChar c) = lowerChar c := by
  rcases lowerChar_cases c with same | rfl | ⟨n, rfl⟩
  · rw [same, same]
  · rfl
  · revert n
    decide

theorem lowerKey_lowerKey (key : String) : lowerKey (lowerKey key) = lowerKey key := by
  rw [← String.toList_inj, toList_lowerKey, toList_lowerKey, List.map_map]
  exact List.map_congr_left fun c _ => lowerChar_lowerChar c

theorem lowerKey_eq_self_iff {key : String} :
    lowerKey key = key ↔ ∀ c ∈ key.toList, lowerChar c = c := by
  rw [← String.toList_inj, toList_lowerKey]
  exact ⟨fun same => List.map_eq_map_iff.mp (same.trans (List.map_id _).symm),
    fun same => (List.map_congr_left same).trans (List.map_id _)⟩

end Node

open Node

namespace Step

/-! ## Paths -/

/-- The path that a name means; a name that is no path is one key. -/
def ofName (name : String) : List Step := (path? name).getD [.key name]

/-- A key is made of the characters that may stand in one, all taken from a text. -/
def Within (cs : List Char) : Step → Prop
  | key name => name ≠ "" ∧ ∀ c ∈ name.toList, isKeyPart c = true ∧ c ∈ cs
  | index _ => True

theorem Within.mono {cs more : List Char} (sub : cs ⊆ more) {step : Step}
    (inside : step.Within cs) : step.Within more := by
  cases step with
  | key name => exact ⟨inside.1, fun c member => (inside.2 c member).imp id fun m => sub m⟩
  | index i => exact inside

theorem key?_eq_some {cs rest : List Char} {step : Step} (read : key? cs = some (step, rest)) :
    (∃ name, step = .key name) ∧ step.Within cs ∧ rest ⊆ cs := by
  simp only [key?] at read
  split at read
  · cases read
  · rename_i some
    cases read
    refine ⟨⟨_, rfl⟩, ⟨?_, ?_⟩, (List.dropWhile_sublist _).subset⟩
    · simpa [← String.toList_inj] using some
    · intro c member
      rw [String.toList_ofList] at member
      exact ⟨List.mem_takeWhile_imp member, (List.takeWhile_sublist _).subset member⟩

theorem index?_eq_some {cs rest : List Char} {step : Step}
    (read : index? cs = some (step, rest)) : step.Within cs ∧ rest ⊆ cs := by
  simp only [index?] at read
  obtain ⟨i, -, closed⟩ := Option.bind_eq_some_iff.mp read
  split at closed
  · rename_i after ends
    cases closed
    have end_sub : ']' :: rest ⊆ cs := by
      rw [← ends]
      exact ((List.dropWhile_sublist _).trans
        ((List.dropWhile_sublist _).trans (List.dropWhile_sublist _))).subset
    exact ⟨trivial, fun c member => end_sub (List.mem_cons_of_mem _ member)⟩
  · cases closed

/-- What a step and the steps after it are made of follows the mark before the step. -/
theorem within_of_next {c : Char} {rest after : List Char} {first : Step} {more : List Step}
    (inside : first.Within rest) (sub : after ⊆ rest)
    (later : ∀ step ∈ more, step.Within after) :
    ∀ step ∈ first :: more, step.Within (c :: rest) := by
  have grow : rest ⊆ c :: rest := List.subset_cons_self c rest
  intro step member
  rcases List.mem_cons.mp member with here | among
  · exact here ▸ inside.mono grow
  · exact (later step among).mono (List.Subset.trans sub grow)

theorem within_of_steps? {fuel : Nat} {cs : List Char} {steps : List Step}
    (read : steps? fuel cs = some steps) : ∀ step ∈ steps, step.Within cs := by
  induction fuel, cs using steps?.induct generalizing steps with
  | case1 fuel =>
      rw [steps?] at read
      cases read
      exact fun step member => absurd member List.not_mem_nil
  | case2 cs other =>
      rw [steps?] at read
      · cases read
      · exact other
  | case3 fuel rest ih =>
      rw [steps?] at read
      obtain ⟨⟨first, after⟩, found, read⟩ := Option.bind_eq_some_iff.mp read
      obtain ⟨more, later, same⟩ := Option.bind_eq_some_iff.mp read
      cases same
      obtain ⟨-, inside, sub⟩ := key?_eq_some found
      exact within_of_next inside sub (ih after later)
  | case4 fuel rest ih =>
      rw [steps?] at read
      obtain ⟨⟨first, after⟩, found, read⟩ := Option.bind_eq_some_iff.mp read
      obtain ⟨more, later, same⟩ := Option.bind_eq_some_iff.mp read
      cases same
      obtain ⟨inside, sub⟩ := index?_eq_some found
      exact within_of_next inside sub (ih after later)
  | case5 fuel cs empty spent point bracket =>
      rw [steps?] at read
      · cases read
      · exact spent
      · exact empty
      · exact point
      · exact bracket

theorem path?_eq_some {name : String} {steps : List Step} (read : path? name = some steps) :
    (∃ key rest, steps = .key key :: rest) ∧ ∀ step ∈ steps, step.Within name.toList := by
  obtain ⟨⟨first, after⟩, found, read⟩ := Option.bind_eq_some_iff.mp read
  obtain ⟨more, later, same⟩ := Option.bind_eq_some_iff.mp read
  cases same
  obtain ⟨⟨key, isKey⟩, inside, sub⟩ := key?_eq_some found
  refine ⟨⟨key, more, by rw [isKey]⟩, ?_⟩
  intro step member
  rcases List.mem_cons.mp member with here | among
  · exact here ▸ inside
  · exact (within_of_steps? later step among).mono sub

/-- A name that is made like a key is a path of one step. -/
theorem path?_of_within {name : String} {cs : List Char} (inside : (key name).Within cs) :
    path? name = some [.key name] := by
  have whole : ∀ c ∈ name.toList, isKeyPart c = true := fun c member => (inside.2 c member).1
  have filled : name.toList.isEmpty = false := by
    rw [List.isEmpty_eq_false_iff, ne_eq, String.toList_eq_nil_iff]
    exact inside.1
  have read : key? name.toList = some (.key name, []) := by
    simp only [key?, List.takeWhile_eq_self_iff.mpr whole, List.dropWhile_eq_nil_iff.mpr whole,
      filled, String.ofList_toList]
    rfl
  rw [path?, read]
  rfl

theorem ofName_of_within {name : String} {cs : List Char} (inside : (key name).Within cs) :
    ofName name = [.key name] := by
  rw [ofName, path?_of_within inside]
  rfl

theorem ofName_cases (name : String) :
    (path? name = none ∧ ofName name = [.key name]) ∨
      ∃ steps, path? name = some steps ∧ ofName name = steps := by
  cases read : path? name with
  | none => exact .inl ⟨rfl, by rw [ofName, read]; rfl⟩
  | some steps => exact .inr ⟨steps, rfl, by rw [ofName, read]; rfl⟩

/-- The keys of a path in lower case are in lower case. -/
theorem lower_of_mem_ofName {name k : String} (lower : lowerKey name = name)
    (member : Step.key k ∈ ofName name) : lowerKey k = k := by
  rcases ofName_cases name with ⟨-, alone⟩ | ⟨steps, read, same⟩
  · rw [alone] at member
    cases List.mem_singleton.mp member
    exact lower
  · rw [same] at member
    have inside := (path?_eq_some read).2 _ member
    exact lowerKey_eq_self_iff.mpr fun c among =>
      lowerKey_eq_self_iff.mp lower c (inside.2 c among).2

/-! ## Names that are safe to put in lower case -/

theorem isKeyPart_lowerChar {c : Char} (part : isKeyPart c = true) :
    isKeyPart (lowerChar c) = true := by
  rcases lowerChar_cases c with same | rfl | ⟨n, rfl⟩
  · rw [same]
    exact part
  · rfl
  · clear part
    revert n
    decide

theorem Within.lower {name : String} {cs : List Char} (inside : (key name).Within cs) :
    (key (lowerKey name)).Within (lowerKey name).toList := by
  refine ⟨?_, ?_⟩
  · rw [ne_eq, ← String.toList_eq_nil_iff, toList_lowerKey, List.map_eq_nil_iff,
      String.toList_eq_nil_iff]
    exact inside.1
  · intro c member
    refine ⟨?_, member⟩
    rw [toList_lowerKey] at member
    obtain ⟨d, among, rfl⟩ := List.mem_map.mp member
    exact isKeyPart_lowerChar (inside.2 d among).1

end Step

/-- A key that stays the same when it is used as a name again. -/
structure Settled (key : String) : Prop where
  lower : lowerKey key = key
  alone : Step.ofName key = [.key key]

/-- A name that means the same in lower case: a path of several steps is in lower case already,
and a name that is no path does not become one. Every bare key is plain, and every text in lower
case. -/
structure Plain (name : String) : Prop where
  several : ∀ first second rest, Step.path? name = some (first :: second :: rest) →
    lowerKey name = name
  free : Step.path? name = none → Step.path? (lowerKey name) = none

theorem plain_of_lower {name : String} (lower : lowerKey name = name) : Plain name where
  several _ _ _ _ := lower
  free none := by rw [lower, none]

theorem plain_of_within {name : String} {cs : List Char}
    (inside : (Step.key name).Within cs) : Plain name where
  several first second rest read := by
    rw [Step.path?_of_within inside] at read
    cases read
  free none := by
    rw [Step.path?_of_within inside] at none
    cases none

theorem settled_of_within {name : String} {cs : List Char}
    (inside : (Step.key name).Within cs) (lower : lowerKey name = name) : Settled name :=
  ⟨lower, Step.ofName_of_within inside⟩

/-- The key under which a path goes on in the first table. Only the last key of a path is put in
lower case. -/
def stored (key : String) : List Step → String
  | [] => lowerKey key
  | _ :: _ => key

theorem stored_of_lower {key : String} (lower : lowerKey key = key) (rest : List Step) :
    stored key rest = key := by
  cases rest with
  | nil => exact lower
  | cons step rest => rfl

/-- A plain name begins with a key that settles. -/
theorem Plain.settled {name : String} (plain : Plain name) :
    ∃ key rest, Step.ofName name = .key key :: rest ∧ Settled (stored key rest) ∧
      ∀ b more, rest = .key b :: more → lowerKey (stored b more) = stored b more := by
  rcases Step.ofName_cases name with ⟨none, alone⟩ | ⟨steps, read, same⟩
  · refine ⟨name, [], alone, ⟨lowerKey_lowerKey name, ?_⟩, by simp⟩
    rw [Step.ofName, stored, plain.free none]
    rfl
  · obtain ⟨⟨key, rest, rfl⟩, inside⟩ := Step.path?_eq_some read
    have first : (Step.key key).Within name.toList := inside _ List.mem_cons_self
    refine ⟨key, rest, same, ?_⟩
    cases rest with
    | nil => exact ⟨settled_of_within first.lower (lowerKey_lowerKey key), by simp⟩
    | cons second rest =>
        have lower : ∀ k, Step.key k ∈ Step.ofName name → lowerKey k = k := fun k =>
          Step.lower_of_mem_ofName (plain.several _ _ _ read)
        rw [same] at lower
        refine ⟨settled_of_within first (lower key List.mem_cons_self), ?_⟩
        intro b more begins
        cases begins
        have small : lowerKey b = b := lower b (List.mem_cons_of_mem _ List.mem_cons_self)
        rw [stored_of_lower small, small]

/-! ## Names of variables -/

theorem mem_withPoints {c : Char} {cs : List Char} (member : c ∈ withPoints cs) :
    c = '.' ∨ c ∈ cs := by
  induction cs using withPoints.induct with
  | case1 rest ih =>
      rcases List.mem_cons.mp member with point | later
      · exact .inl point
      · exact (ih later).imp id fun among => by simp [among]
  | case2 d rest other ih =>
      rw [withPoints] at member
      · rcases List.mem_cons.mp member with here | later
        · exact .inr (here ▸ List.mem_cons_self)
        · exact (ih later).imp id (List.mem_cons_of_mem _)
      · exact other
  | case3 => cases member

/-- The path of a variable is in lower case. -/
theorem lower_of_variablePath? {name path : String} (means : variablePath? name = some path) :
    lowerKey path = path := by
  simp only [variablePath?] at means
  split at means
  · rw [← Option.some.inj means]
    refine lowerKey_eq_self_iff.mpr fun c member => ?_
    rw [String.toList_ofList] at member
    rcases mem_withPoints member with rfl | among
    · rfl
    · have lower := List.mem_of_mem_drop among
      rw [toList_lowerKey] at lower
      obtain ⟨d, -, rfl⟩ := List.mem_map.mp lower
      exact lowerChar_lowerChar d
  · cases means

theorem lower_of_mem_environmentFields {environment : Environment} {entry : String × Node}
    (member : entry ∈ environmentFields environment) : lowerKey entry.1 = entry.1 := by
  obtain ⟨⟨name, text⟩, -, found⟩ := List.mem_filterMap.mp member
  obtain ⟨path, means, rfl⟩ := Option.map_eq_some_iff.mp found
  exact lower_of_variablePath? means

end RecordGraph.Settings
