import Mathlib.Data.List.Dedup
import Mathlib.Data.List.Perm.Basic
import RecordGraph.Proofs.Success
import RecordGraph.Proofs.Urn.Text
import RecordGraph.Registry

/-!
# Registries as partial bijections

Descriptors form a registry just if each may stand by itself and no two of them disagree. Which
descriptors there are is all that matters: their order and how often each is given change
neither that nor the labels.
-/

namespace RecordGraph

/-- Descriptors that go together: types with names, labels that may be given, and a label for
each type that no other type has. -/
structure Descriptor.Coherent (ds : List Descriptor) : Prop where
  named : ∀ d ∈ ds, d.entityType ≠ ""
  labelled : ∀ d ∈ ds, Identifier.isValid d.label = true ∧ d.label ≠ unknownLabel
  oneLabel : ∀ d ∈ ds, ∀ e ∈ ds, d.entityType = e.entityType → d.label = e.label
  oneType : ∀ d ∈ ds, ∀ e ∈ ds, d.label = e.label → d.entityType = e.entityType

/-- What an error says of the descriptors that it is about. -/
def RegistryError.Applies (ds : List Descriptor) : RegistryError → Prop
  | noEntityType label => ⟨"", label⟩ ∈ ds
  | badLabel label entityType =>
      ⟨entityType, label⟩ ∈ ds ∧ ¬ (Identifier.isValid label = true ∧ label ≠ unknownLabel)
  | twoLabels entityType known label =>
      ⟨entityType, known⟩ ∈ ds ∧ ⟨entityType, label⟩ ∈ ds ∧ known ≠ label
  | twoTypes known entityType label =>
      ⟨known, label⟩ ∈ ds ∧ ⟨entityType, label⟩ ∈ ds ∧ known ≠ entityType

theorem Descriptor.isAcceptable_iff (d : Descriptor) :
    d.isAcceptable = true ↔
      d.entityType ≠ "" ∧ Identifier.isValid d.label = true ∧ d.label ≠ unknownLabel := by
  simp only [isAcceptable, Bool.and_eq_true, decide_eq_true_eq, and_assoc]

theorem Descriptor.Coherent.mono {ds es : List Descriptor} (coherent : Coherent ds)
    (inside : ∀ d ∈ es, d ∈ ds) : Coherent es where
  named d member := coherent.named d (inside d member)
  labelled d member := coherent.labelled d (inside d member)
  oneLabel d member e other := coherent.oneLabel d (inside d member) e (inside e other)
  oneType d member e other := coherent.oneType d (inside d member) e (inside e other)

theorem Descriptor.coherent_singleton {d : Descriptor} (acceptable : d.isAcceptable = true) :
    Coherent [d] := by
  obtain ⟨named, labelled⟩ := d.isAcceptable_iff.mp acceptable
  have only {e : Descriptor} (member : e ∈ [d]) : e = d := List.mem_singleton.mp member
  refine ⟨?_, ?_, ?_, ?_⟩
  · intro e member
    rwa [only member]
  · intro e member
    rwa [only member]
  · intro e member e' member' _
    rw [only member, only member']
  · intro e member e' member' _
    rw [only member, only member']

/-- Descriptors to which an error applies do not go together. -/
theorem RegistryError.Applies.not_coherent {ds : List Descriptor} {e : RegistryError}
    (applies : e.Applies ds) : ¬ Descriptor.Coherent ds := by
  intro coherent
  cases e with
  | noEntityType label => exact coherent.named _ applies rfl
  | badLabel label entityType => exact applies.2 (coherent.labelled _ applies.1)
  | twoLabels entityType known label =>
      obtain ⟨one, other, differ⟩ := applies
      exact differ (coherent.oneLabel _ one _ other rfl)
  | twoTypes known entityType label =>
      obtain ⟨one, other, differ⟩ := applies
      exact differ (coherent.oneType _ one _ other rfl)

namespace Registry

variable {r r' : Registry} {ds es : List Descriptor}

theorem coherent_entries (r : Registry) : Descriptor.Coherent r.entries where
  named d member := ((Descriptor.isAcceptable_iff d).mp (r.acceptable d member)).1
  labelled d member := ((Descriptor.isAcceptable_iff d).mp (r.acceptable d member)).2
  oneLabel _ member _ other same :=
    congrArg Descriptor.label (List.inj_on_of_nodup_map r.types_nodup member other same)
  oneType _ member _ other same :=
    congrArg Descriptor.entityType (List.inj_on_of_nodup_map r.labels_nodup member other same)

/-- Where keys differ, the value found for a key is the one that has it. -/
theorem find?_key_eq_some_iff {α : Type} {key : α → String} {xs : List α}
    (distinct : (xs.map key).Nodup) {k : String} {x : α} :
    xs.find? (fun y => decide (key y = k)) = some x ↔ x ∈ xs ∧ key x = k := by
  constructor
  · intro found
    have kept := List.find?_some found
    exact ⟨List.mem_of_find?_eq_some found, of_decide_eq_true kept⟩
  · rintro ⟨member, rfl⟩
    cases found : xs.find? (fun y => decide (key y = key x)) with
    | none => exact absurd (decide_eq_true rfl) (List.find?_eq_none.mp found x member)
    | some y =>
        have kept := List.find?_some found
        rw [List.inj_on_of_nodup_map distinct (List.mem_of_find?_eq_some found) member
          (of_decide_eq_true kept)]

theorem label?_eq_some_iff (r : Registry) (t l : String) :
    r.label? t = some l ↔ ⟨t, l⟩ ∈ r.entries := by
  rw [label?, Option.map_eq_some_iff]
  simp only [find?_key_eq_some_iff r.types_nodup]
  constructor
  · rintro ⟨d, ⟨member, rfl⟩, rfl⟩
    exact member
  · intro member
    exact ⟨⟨t, l⟩, ⟨member, rfl⟩, rfl⟩

theorem owner?_eq_some_iff (r : Registry) (t l : String) :
    r.owner? l = some t ↔ ⟨t, l⟩ ∈ r.entries := by
  rw [owner?, Option.map_eq_some_iff]
  simp only [find?_key_eq_some_iff r.labels_nodup]
  constructor
  · rintro ⟨d, ⟨member, rfl⟩, rfl⟩
    exact member
  · intro member
    exact ⟨⟨t, l⟩, ⟨member, rfl⟩, rfl⟩

/-! ## Building a registry -/

/-- A type that is registered is an entry more, unless it was there. -/
theorem mem_entries_of_add {d : Descriptor} (added : r.add d = .ok r') (e : Descriptor) :
    e ∈ r'.entries ↔ e ∈ r.entries ∨ e = d := by
  unfold add at added
  split at added
  · cases added
  split at added
  · split at added
    · rename_i known found
      split at added
      · rename_i same
        cases added
        have there : d ∈ r.entries := by
          rw [same] at found
          exact (r.label?_eq_some_iff _ _).mp found
        constructor
        · exact .inl
        · rintro (old | rfl)
          · exact old
          · exact there
      · cases added
    · split at added
      · cases added
      · cases added
        simp only [List.mem_append, List.mem_singleton]
  · cases added

/-- A type that cannot be registered is at odds with the entries, or by itself. -/
theorem applies_of_add {d : Descriptor} {e : RegistryError} (failed : r.add d = .error e)
    (here : d ∈ ds) (inside : ∀ d ∈ r.entries, d ∈ ds) : e.Applies ds := by
  unfold add at failed
  split at failed
  · rename_i unnamed
    cases failed
    obtain ⟨entityType, label⟩ := d
    obtain rfl : entityType = "" := unnamed
    exact here
  rename_i named
  split at failed
  · split at failed
    · rename_i known found
      split at failed
      · cases failed
      · rename_i differ
        cases failed
        exact ⟨inside _ ((r.label?_eq_some_iff _ _).mp found), here, differ⟩
    · rename_i unregistered
      split at failed
      · rename_i known owned
        cases failed
        have owner := (r.owner?_eq_some_iff known d.label).mp owned
        refine ⟨inside _ owner, here, ?_⟩
        rintro rfl
        exact label?_eq_none unregistered (List.mem_map_of_mem owner)
      · cases failed
  · rename_i unacceptable
    cases failed
    refine ⟨here, ?_⟩
    intro labelled
    exact unacceptable ((Descriptor.isAcceptable_iff d).mpr ⟨named, labelled⟩)

theorem mem_entries_of_addAll (added : r.addAll ds = .ok r') (e : Descriptor) :
    e ∈ r'.entries ↔ e ∈ r.entries ∨ e ∈ ds := by
  induction ds generalizing r with
  | nil =>
      cases added
      simp only [List.not_mem_nil, or_false]
  | cons d rest ih =>
      obtain ⟨next, first, others⟩ := bind_eq_ok_iff.mp added
      rw [ih others, mem_entries_of_add first, List.mem_cons, or_assoc]

theorem applies_of_addAll {e : RegistryError} {all : List Descriptor}
    (failed : r.addAll ds = .error e) (here : ∀ d ∈ ds, d ∈ all)
    (inside : ∀ d ∈ r.entries, d ∈ all) : e.Applies all := by
  induction ds generalizing r with
  | nil => cases failed
  | cons d rest ih =>
      cases first : r.add d with
      | error fault =>
          rw [addAll, first] at failed
          cases failed
          exact applies_of_add first (here d List.mem_cons_self) inside
      | ok next =>
          rw [addAll, first] at failed
          refine ih failed (fun e member => here e (List.mem_cons_of_mem d member)) ?_
          intro e member
          rcases (mem_entries_of_add first e).mp member with old | rfl
          · exact inside e old
          · exact here e List.mem_cons_self

/-- The entries of a registry are the descriptors that it was made of. -/
theorem mem_entries_of_built (built : ofDescriptors ds = .ok r) (d : Descriptor) :
    d ∈ r.entries ↔ d ∈ ds := by
  rw [mem_entries_of_addAll built]
  exact or_iff_right List.not_mem_nil

/-- The error of descriptors that form no registry applies to them. -/
theorem applies_of_refused {e : RegistryError} (refused : ofDescriptors ds = .error e) :
    e.Applies ds :=
  applies_of_addAll refused (fun _ member => member) fun _ none => absurd none List.not_mem_nil

theorem exists_built_iff : (∃ r, ofDescriptors ds = .ok r) ↔ Descriptor.Coherent ds := by
  constructor
  · rintro ⟨r, built⟩
    exact r.coherent_entries.mono fun d member => (mem_entries_of_built built d).mpr member
  · intro coherent
    cases built : ofDescriptors ds with
    | ok r => exact ⟨r, rfl⟩
    | error e => exact absurd coherent (applies_of_refused built).not_coherent

/-! ## The labels of a registry -/

theorem label?_of_built (built : ofDescriptors ds = .ok r) (t l : String) :
    r.label? t = some l ↔ ⟨t, l⟩ ∈ ds :=
  (r.label?_eq_some_iff t l).trans (mem_entries_of_built built ⟨t, l⟩)

theorem contains_of_built (built : ofDescriptors ds = .ok r) (t : String) :
    r.contains t = true ↔ t ∈ ds.map Descriptor.entityType := by
  rw [contains, Option.isSome_iff_exists, List.mem_map]
  constructor
  · rintro ⟨l, found⟩
    exact ⟨⟨t, l⟩, (label?_of_built built t l).mp found, rfl⟩
  · rintro ⟨d, member, rfl⟩
    exact ⟨d.label, (label?_of_built built _ _).mpr member⟩

/-- Only registered types are told apart from the unknown ones. -/
theorem label?_ne_unknown (r : Registry) (t : String) : r.label? t ≠ some unknownLabel := by
  intro found
  exact (r.coherent_entries.labelled _ ((r.label?_eq_some_iff t _).mp found)).2 rfl

theorem labelFor_eq_unknown_iff (r : Registry) (u : Urn) :
    r.labelFor u = unknownLabel ↔ r.contains u.entityType = false := by
  rw [labelFor, contains]
  cases found : r.label? u.entityType with
  | none => exact ⟨fun _ => rfl, fun _ => rfl⟩
  | some l =>
      constructor
      · rintro rfl
        exact absurd found (r.label?_ne_unknown _)
      · intro impossible
        cases impossible

theorem size_of_built (built : ofDescriptors ds = .ok r) :
    r.size = (ds.map Descriptor.entityType).dedup.length := by
  have same (t : String) : t ∈ r.entries.map Descriptor.entityType ↔
      t ∈ (ds.map Descriptor.entityType).dedup := by
    simp only [List.mem_dedup, List.mem_map, mem_entries_of_built built]
  have perm := (List.perm_ext_iff_of_nodup r.types_nodup (List.nodup_dedup _)).mpr same
  rw [size, ← perm.length_eq, List.length_map]

/-- Descriptors form a registry just if they go together, and otherwise the error says which of
them do not. A registry is the bijection of types and labels that its descriptors list, and
urns of all other types have the unknown label. The same descriptors in another order, or
repeated, make the same of it. -/
theorem ofDescriptors_bijective (ds : List Descriptor) :
    ((∃ r, ofDescriptors ds = .ok r) ↔ Descriptor.Coherent ds) ∧
    (¬ Descriptor.Coherent ds → ∃ e, ofDescriptors ds = .error e ∧ e.Applies ds) ∧
    (∀ r, ofDescriptors ds = .ok r →
      (∀ (u : Urn) (l : String), ⟨u.entityType, l⟩ ∈ ds → r.labelFor u = l) ∧
      (∀ u : Urn, r.labelFor u = unknownLabel ↔ u.entityType ∉ ds.map Descriptor.entityType) ∧
      (∀ t l, r.label? t = some l ↔ ⟨t, l⟩ ∈ ds) ∧
      (∀ t t' l, r.label? t = some l → r.label? t' = some l → t = t' ∧ l ≠ unknownLabel) ∧
      (∀ t, r.contains t = true ↔ t ∈ ds.map Descriptor.entityType) ∧
      r.size = (ds.map Descriptor.entityType).dedup.length) ∧
    ∀ es : List Descriptor, (∀ d, d ∈ es ↔ d ∈ ds) →
      ((∃ s, ofDescriptors es = .ok s) ↔ ∃ r, ofDescriptors ds = .ok r) ∧
      ∀ r s, ofDescriptors ds = .ok r → ofDescriptors es = .ok s →
        (∀ t, s.label? t = r.label? t) ∧ (∀ u, s.labelFor u = r.labelFor u) ∧
          s.size = r.size := by
  refine ⟨exists_built_iff, ?_, ?_, ?_⟩
  · intro incoherent
    cases built : ofDescriptors ds with
    | ok r => exact absurd (exists_built_iff.mp ⟨r, built⟩) incoherent
    | error e => exact ⟨e, rfl, applies_of_refused built⟩
  · intro r built
    refine ⟨?_, ?_, label?_of_built built, ?_, contains_of_built built, size_of_built built⟩
    · intro u l member
      rw [labelFor, (label?_of_built built u.entityType l).mpr member]
      rfl
    · intro u
      rw [labelFor_eq_unknown_iff, ← contains_of_built built, Bool.not_eq_true]
    · intro t t' l one other
      have labels := r.coherent_entries
      refine ⟨labels.oneType _ ((r.label?_eq_some_iff t l).mp one) _
        ((r.label?_eq_some_iff t' l).mp other) rfl, ?_⟩
      rintro rfl
      exact r.label?_ne_unknown t one
  · intro es same
    refine ⟨?_, ?_⟩
    · rw [exists_built_iff, exists_built_iff]
      exact ⟨fun coherent => coherent.mono fun d member => (same d).mpr member,
        fun coherent => coherent.mono fun d member => (same d).mp member⟩
    · intro r s built again
      have labels (t : String) : s.label? t = r.label? t := by
        ext l
        rw [label?_of_built again, label?_of_built built, same]
      refine ⟨labels, fun u => by rw [labelFor, labelFor, labels], ?_⟩
      have types : (es.map Descriptor.entityType).dedup.Perm
          (ds.map Descriptor.entityType).dedup := by
        refine (List.perm_ext_iff_of_nodup (List.nodup_dedup _) (List.nodup_dedup _)).mpr ?_
        intro t
        simp only [List.mem_dedup, List.mem_map, same]
      rw [size_of_built built, size_of_built again, types.length_eq]

/-- Two types in either order, one of them given twice; a third that claims a label is refused. -/
theorem ofDescriptors_bijective_repeated :
    let person : Descriptor := ⟨"person", "Person"⟩
    let company : Descriptor := ⟨"company", "Company"⟩
    let firm : Descriptor := ⟨"firm", "Company"⟩
    (∀ d, d ∈ [company, person] ↔ d ∈ [person, company, person]) ∧
    (∃ r s, ofDescriptors [person, company, person] = .ok r ∧
      ofDescriptors [company, person] = .ok s ∧ r.labelFor .ann = "Person" ∧ r.size = 2 ∧
      ∀ u, s.labelFor u = r.labelFor u) ∧
    ∃ e, ofDescriptors [person, company, firm] = .error e ∧
      e.Applies [person, company, firm] := by
  intro person company firm
  have coherent : Descriptor.Coherent [person, company, person] :=
    ⟨by decide, by decide, by decide, by decide⟩
  have clash : ¬ Descriptor.Coherent [person, company, firm] := fun coherent =>
    absurd (coherent.oneType company (by decide) firm (by decide) rfl) (by decide)
  have same : ∀ d, d ∈ [company, person] ↔ d ∈ [person, company, person] := by
    intro d
    simp only [List.mem_cons, List.not_mem_nil, or_false]
    tauto
  obtain ⟨made, -, labels, again⟩ := ofDescriptors_bijective [person, company, person]
  obtain ⟨r, built⟩ := made.mpr coherent
  obtain ⟨s, rebuilt⟩ := (again _ same).1.mpr ⟨r, built⟩
  obtain ⟨paired, -, -, -, -, size⟩ := labels r built
  refine ⟨same, ⟨r, s, built, rebuilt, paired .ann "Person" (by decide), ?_, ?_⟩, ?_⟩
  · rw [size]
    decide
  · exact ((again _ same).2 r s built rebuilt).2.1
  · exact (ofDescriptors_bijective [person, company, firm]).2.1 clash

end Registry

end RecordGraph
