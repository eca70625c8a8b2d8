import RecordGraph.Proofs.Registry

/-!
# The shared registry

The parts of a process ask for the shared registry one after another, each with descriptors of
its own. The first descriptors that form a registry set it, and it stays as it is from then on.
A part whose descriptors form none gets its error at any time and leaves nothing behind.
-/

namespace RecordGraph

namespace Registry

/-- What each of several calls gives, and the shared registry right after it. -/
def Shared.trace (shared : Shared) :
    List (List Descriptor) → List (Except RegistryError Registry × Shared)
  | [] => []
  | ds :: rest => shared.getOrInit ds :: Shared.trace (shared.getOrInit ds).2 rest

/-- The shared registry of a process after several calls. -/
def Shared.after (shared : Shared) (calls : List (List Descriptor)) : Shared :=
  calls.foldl (fun shared ds => (shared.getOrInit ds).2) shared

/-- The first of several calls whose descriptors form a registry. -/
structure FirstBuilt (calls : List (List Descriptor)) (k : Nat) (ds : List Descriptor)
    (first : Registry) : Prop where
  made : calls[k]? = some ds
  built : ofDescriptors ds = .ok first
  refused : ∀ earlier ∈ calls.take k, ∃ e, ofDescriptors earlier = .error e

variable {shared : Shared} {calls : List (List Descriptor)} {ds : List Descriptor}

namespace Shared

/-! ## One call -/

/-- Descriptors that form no registry are refused, whatever is shared. -/
theorem getOrInit_of_refused {e : RegistryError} (refused : ofDescriptors ds = .error e) :
    shared.getOrInit ds = (.error e, shared) := by
  rw [getOrInit, refused]

/-- Descriptors that form a registry get the shared one, which is theirs if there was none. -/
theorem getOrInit_of_built {built : Registry} (formed : ofDescriptors ds = .ok built) :
    shared.getOrInit ds = (.ok (shared.getD built), some (shared.getD built)) := by
  rw [getOrInit, formed]

theorem getOrInit_eq_error_iff (e : RegistryError) :
    (shared.getOrInit ds).1 = .error e ↔ ofDescriptors ds = .error e := by
  cases formed : ofDescriptors ds with
  | error fault => rw [getOrInit_of_refused formed]
  | ok built =>
      rw [getOrInit_of_built formed]
      exact ⟨nofun, nofun⟩

/-- What is shared once stays shared. -/
theorem getOrInit_some (r : Registry) : (Shared.getOrInit (some r) ds).2 = some r := by
  cases formed : ofDescriptors ds with
  | error fault => rw [getOrInit_of_refused formed]
  | ok built => rw [getOrInit_of_built formed, Option.getD_some]

/-! ## Calls one after another -/

theorem after_append (calls more : List (List Descriptor)) :
    shared.after (calls ++ more) = (shared.after calls).after more :=
  List.foldl_append

theorem length_trace : (shared.trace calls).length = calls.length := by
  induction calls generalizing shared with
  | nil => rfl
  | cons ds rest ih => exact congrArg Nat.succ ih

/-- Each call meets what the calls before it have shared. -/
theorem getElem?_trace (i : Nat) :
    (shared.trace calls)[i]? =
      calls[i]?.map fun ds => (shared.after (calls.take i)).getOrInit ds := by
  induction calls generalizing shared i with
  | nil => rfl
  | cons ds rest ih =>
      cases i with
      | zero => rfl
      | succ i => exact ih i

theorem after_take_succ {i : Nat} (made : calls[i]? = some ds) :
    shared.after (calls.take (i + 1)) = ((shared.after (calls.take i)).getOrInit ds).2 := by
  rw [List.take_add_one, made, after_append]
  rfl

theorem after_some (r : Registry) : Shared.after (some r) calls = some r := by
  induction calls with
  | nil => rfl
  | cons ds rest ih =>
      change Shared.after (Shared.getOrInit (some r) ds).2 rest = some r
      rw [getOrInit_some, ih]

/-- Calls that are all refused share nothing. -/
theorem after_of_refused (refused : ∀ ds ∈ calls, ∃ e, ofDescriptors ds = .error e) :
    shared.after calls = shared := by
  induction calls with
  | nil => rfl
  | cons ds rest ih =>
      obtain ⟨e, fault⟩ := refused ds List.mem_cons_self
      change Shared.after (shared.getOrInit ds).2 rest = shared
      rw [getOrInit_of_refused fault]
      exact ih fun later member => refused later (List.mem_cons_of_mem ds member)

end Shared

namespace FirstBuilt

variable {k : Nat} {first : Registry}

theorem after_before (once : FirstBuilt calls k ds first) {n : Nat} (early : n ≤ k) :
    Shared.after none (calls.take n) = none := by
  refine Shared.after_of_refused fun earlier member => once.refused earlier ?_
  exact (List.take_prefix_take_left early).subset member

theorem after_take (once : FirstBuilt calls k ds first) {n : Nat} (late : k < n) :
    Shared.after none (calls.take n) = some first := by
  -- the calls up to the first that is built, and the others
  obtain ⟨more, rfl⟩ := Nat.exists_eq_add_of_le late
  rw [List.take_add, Shared.after_append, Shared.after_take_succ once.made,
    once.after_before (Nat.le_refl k), Shared.getOrInit_of_built once.built, Option.getD_none,
    Shared.after_some]

end FirstBuilt

/-- The shared registry is set once. A call fails just if its own descriptors form no registry,
before and after the registry is set, and then it shares nothing. Until the first call that is
built nothing is shared. From then on the registry of that call is what everyone sees and what
every call that succeeds gives, and all labels are those that its descriptors list. -/
theorem Shared.set_once (calls : List (List Descriptor)) :
    (Shared.trace none calls).length = calls.length ∧
    (∀ i ds, calls[i]? = some ds → ∃ result,
      (Shared.trace none calls)[i]? = some (result, Shared.after none (calls.take (i + 1))) ∧
      (∀ e, result = .error e ↔ ofDescriptors ds = .error e) ∧
      ((∃ e, result = .error e) →
        Shared.after none (calls.take (i + 1)) = Shared.after none (calls.take i))) ∧
    (∀ n, (∀ ds ∈ calls.take n, ∃ e, ofDescriptors ds = .error e) →
      Shared.after none (calls.take n) = none) ∧
    ∀ k ds first, FirstBuilt calls k ds first →
      (∀ n, Shared.after none (calls.take n) = if n ≤ k then none else some first) ∧
      (∀ i r shared, (Shared.trace none calls)[i]? = some (.ok r, shared) → k ≤ i ∧ r = first) ∧
      (∀ (u : Urn) (l : String), ⟨u.entityType, l⟩ ∈ ds → first.labelFor u = l) ∧
      ∀ u : Urn, first.labelFor u = unknownLabel ↔
        u.entityType ∉ ds.map Descriptor.entityType := by
  refine ⟨length_trace, ?_, fun n refused => after_of_refused refused, ?_⟩
  · intro i ds made
    refine ⟨((after none (calls.take i)).getOrInit ds).1, ?_, getOrInit_eq_error_iff, ?_⟩
    · rw [getElem?_trace, made, after_take_succ made]
      rfl
    · rintro ⟨e, failed⟩
      rw [after_take_succ made, getOrInit_of_refused ((getOrInit_eq_error_iff e).mp failed)]
  · intro k ds first once
    refine ⟨?_, ?_, ?_, ?_⟩
    · intro n
      by_cases early : n ≤ k
      · rw [if_pos early, once.after_before early]
      · rw [if_neg early, once.after_take (Nat.lt_of_not_le early)]
    · intro i r shared given
      rw [getElem?_trace, Option.map_eq_some_iff] at given
      obtain ⟨own, made, given⟩ := given
      cases formed : ofDescriptors own with
      | error fault =>
          rw [getOrInit_of_refused formed] at given
          cases given
      | ok built =>
          rw [getOrInit_of_built formed] at given
          have succeeded : (after none (calls.take i)).getD built = r :=
            Except.ok.inj (Prod.mk.inj given).1
          rcases Nat.lt_trichotomy i k with before | rfl | late
          · -- a call before the first that is built was refused
            have earlier : own ∈ calls.take k :=
              List.mem_of_getElem? ((List.getElem?_take_of_lt before).trans made)
            obtain ⟨e, fault⟩ := once.refused own earlier
            cases formed.symm.trans fault
          · cases Option.some.inj (made.symm.trans once.made)
            cases formed.symm.trans once.built
            rw [once.after_before (Nat.le_refl i), Option.getD_none] at succeeded
            exact ⟨Nat.le_refl i, succeeded.symm⟩
          · rw [once.after_take late, Option.getD_some] at succeeded
            exact ⟨Nat.le_of_lt late, succeeded.symm⟩
    · intro u l member
      rw [labelFor, (label?_of_built once.built u.entityType l).mpr member]
      rfl
    · intro u
      rw [labelFor_eq_unknown_iff, ← contains_of_built once.built, Bool.not_eq_true]

/-- Before the registry is set a clash of labels is refused. Afterwards the clash is refused
again, and descriptors of another registry get the one that is set. -/
theorem Shared.set_once_person :
    let person : Descriptor := ⟨"person", "Person"⟩
    let company : Descriptor := ⟨"company", "Company"⟩
    let firm : Descriptor := ⟨"firm", "Company"⟩
    let clash := RegistryError.twoTypes "company" "firm" "Company"
    let calls := [[company, firm], [person], [company], [company, firm]]
    ∃ first, FirstBuilt calls 1 [person] first ∧
      (Shared.trace none calls)[0]? = some (.error clash, none) ∧
      (Shared.trace none calls)[2]? = some (.ok first, some first) ∧
      (Shared.trace none calls)[3]? = some (.error clash, some first) ∧
      ∀ ann : Urn, ann.entityType = "person" → first.labelFor ann = "Person" := by
  intro person company firm clash calls
  have fault : (ofDescriptors [company, firm]).map (fun _ => ()) = .error clash := by decide
  have refused : ofDescriptors [company, firm] = .error clash := map_eq_error_iff.mp fault
  obtain ⟨first, built⟩ : ∃ first, ofDescriptors [person] = .ok first :=
    exists_built_iff.mpr (Descriptor.coherent_singleton (by decide))
  obtain ⟨other, formed⟩ : ∃ other, ofDescriptors [company] = .ok other :=
    exists_built_iff.mpr (Descriptor.coherent_singleton (by decide))
  have once : FirstBuilt calls 1 [person] first := by
    refine ⟨rfl, built, fun earlier member => ⟨clash, ?_⟩⟩
    rw [List.mem_singleton.mp member, refused]
  obtain ⟨-, answered, -, set⟩ := Shared.set_once calls
  obtain ⟨seen, given, labels, -⟩ := set 1 [person] first once
  refine ⟨first, once, ?_, ?_, ?_, ?_⟩
  · obtain ⟨result, first, faults, -⟩ := answered 0 [company, firm] rfl
    rw [first, (faults clash).mpr refused, seen, if_pos (by decide)]
  · obtain ⟨result, third, faults, -⟩ := answered 2 [company] rfl
    rw [third, seen, if_neg (by decide)]
    rcases result with e | r
    · cases ((faults e).mp rfl).symm.trans formed
    · rw [(given 2 r _ third).2]
  · obtain ⟨result, fourth, faults, -⟩ := answered 3 [company, firm] rfl
    rw [fourth, (faults clash).mpr refused, seen, if_neg (by decide)]
  · intro ann kind
    refine labels ann "Person" ?_
    rw [kind]
    exact List.mem_singleton.mpr rfl

end Registry

end RecordGraph
