import RecordGraph.Proofs.Registry
import RecordGraph.Proofs.Urn.Grammar

/-!
# Urns from parts

A urn is made from parts by reading the text into which they are joined. The text is divided at
its first colons, wherever they come from. So a namespace or an entity type with a colon of its
own is not refused: what follows the colon goes to the next part, and the node of the urn may get
the label of another entity type.
-/

namespace RecordGraph.Urn

/-- The parts into which the text of the given ones is divided. -/
def divide (nameSpace entityType key : List Char) : List Char × List Char × List Char :=
  let more := (cut nameSpace).2
  if ':' ∈ nameSpace then
    if ':' ∈ more then
      ((cut nameSpace).1, (cut more).1, (cut more).2 ++ ':' :: (entityType ++ ':' :: key))
    else ((cut nameSpace).1, more, entityType ++ ':' :: key)
  else if ':' ∈ entityType then
    (nameSpace, (cut entityType).1, (cut entityType).2 ++ ':' :: key)
  else (nameSpace, entityType, key)

/-- What parts lack to be those of a urn: the first that is empty. -/
def missing? : List Char × List Char × List Char → Option UrnFault
  | ([], _, _) => some .nameSpace
  | (_, [], _) => some .entityType
  | (_, _, []) => some .key
  | _ => none

/-! ## Dividing -/

theorem cut_append_of_mem {cs : List Char} (member : ':' ∈ cs) (rest : List Char) :
    cut (cs ++ rest) = ((cut cs).1, (cut cs).2 ++ rest) := by
  obtain ⟨name, more, rfl, free⟩ := List.eq_append_cons_of_mem member
  rw [List.append_assoc, List.cons_append, cut_append free, cut_append free]

/-- The joined parts are divided by two cuts. -/
theorem divide_eq_cuts (nameSpace entityType key : List Char) :
    let rest := nameSpace ++ ':' :: (entityType ++ ':' :: key)
    divide nameSpace entityType key = ((cut rest).1, cut (cut rest).2) := by
  intro rest
  unfold divide
  dsimp only
  by_cases first : ':' ∈ nameSpace
  · rw [if_pos first, cut_append_of_mem first]
    by_cases second : ':' ∈ (cut nameSpace).2
    · rw [if_pos second, cut_append_of_mem second]
    · rw [if_neg second, cut_append second]
  · rw [if_neg first, cut_append first]
    by_cases second : ':' ∈ entityType
    · rw [if_pos second, cut_append_of_mem second]
    · rw [if_neg second, cut_append second]

theorem divide_free (nameSpace entityType key : List Char) :
    ':' ∉ (divide nameSpace entityType key).1 ∧ ':' ∉ (divide nameSpace entityType key).2.1 := by
  rw [divide_eq_cuts]
  exact ⟨colon_notMem_cut _, colon_notMem_cut _⟩

theorem divide_eq_self_iff {nameSpace entityType key : List Char} :
    divide nameSpace entityType key = (nameSpace, entityType, key) ↔
      ':' ∉ nameSpace ∧ ':' ∉ entityType := by
  constructor
  · intro same
    have free := divide_free nameSpace entityType key
    rwa [same] at free
  · rintro ⟨first, second⟩
    unfold divide
    rw [if_neg first, if_neg second]

/-! ## Reading the parts -/

theorem ofParts?_eq_error_iff {nameSpace entityType key : List Char} {free₁ : ':' ∉ nameSpace}
    {free₂ : ':' ∉ entityType} {fault : UrnFault} :
    ofParts? nameSpace entityType key free₁ free₂ = .error fault ↔
      missing? (nameSpace, entityType, key) = some fault := by
  cases nameSpace with
  | nil => simp [ofParts?, missing?]
  | cons c nameSpace =>
      cases entityType with
      | nil => simp [ofParts?, missing?]
      | cons d entityType =>
          cases key with
          | nil => simp [ofParts?, missing?]
          | cons e key => simp [ofParts?, missing?]

/-- The joined text begins with the scheme, and what follows is divided. -/
theorem ofChars?_join (nameSpace entityType key : String) :
    let parts := divide nameSpace.toList entityType.toList key.toList
    ∃ free₁ free₂, ofChars? (join nameSpace entityType key).toList =
      ofParts? parts.1 parts.2.1 parts.2.2 free₁ free₂ := by
  intro parts
  refine ⟨(divide_free _ _ _).1, (divide_free _ _ _).2, ?_⟩
  have scheme := @cut_append ['u', 'r', 'n'] (by decide)
    (nameSpace.toList ++ ':' :: (entityType.toList ++ ':' :: key.toList))
  simp only [parts, divide_eq_cuts]
  unfold ofChars?
  simp only [toList_join, scheme, ↓reduceIte]

theorem new_eq_ok_iff {nameSpace entityType key : String} {u : Urn} :
    new nameSpace entityType key = .ok u ↔
      (u.nameSpace.toList, u.entityType.toList, u.key.toList) =
        divide nameSpace.toList entityType.toList key.toList := by
  obtain ⟨free₁, free₂, read⟩ := ofChars?_join nameSpace entityType key
  rw [new, parse, mapError_eq_ok_iff, read]
  exact ofParts?_eq_ok_iff

theorem new_eq_error_iff {nameSpace entityType key : String} {e : UrnError} :
    new nameSpace entityType key = .error e ↔
      e.text = join nameSpace entityType key ∧
        missing? (divide nameSpace.toList entityType.toList key.toList) = some e.fault := by
  obtain ⟨free₁, free₂, read⟩ := ofChars?_join nameSpace entityType key
  rw [new, parse, mapError_eq_error_iff, read]
  constructor
  · rintro ⟨fault, failed, rfl⟩
    exact ⟨rfl, ofParts?_eq_error_iff.mp failed⟩
  · rintro ⟨text, lacks⟩
    refine ⟨e.fault, ofParts?_eq_error_iff.mpr lacks, ?_⟩
    rw [← text]

theorem parts_eq_iff {u : Urn} {nameSpace entityType key : String} :
    (u.nameSpace = nameSpace ∧ u.entityType = entityType ∧ u.key = key) ↔
      (u.nameSpace.toList, u.entityType.toList, u.key.toList) =
        (nameSpace.toList, entityType.toList, key.toList) := by
  simp only [Prod.mk.injEq, String.toList_inj]

/-! ## Labels -/

/-- All registries give a urn the label of an entity type just if it is the type of the urn. -/
theorem labelFor_eq_label?_iff {u : Urn} {entityType : String} :
    (∀ registry : Registry,
      registry.labelFor u = (registry.label? entityType).getD unknownLabel) ↔
      u.entityType = entityType := by
  constructor
  · intro labels
    have labelled : Identifier.isValid "A" = true ∧ "A" ≠ unknownLabel := by decide
    have acceptable : Descriptor.isAcceptable ⟨u.entityType, "A"⟩ = true :=
      (Descriptor.isAcceptable_iff _).mpr ⟨u.entityType_ne, labelled⟩
    -- only the type of the urn is known, so another one has no label
    obtain ⟨registry, built⟩ :=
      Registry.exists_built_iff.mpr (Descriptor.coherent_singleton acceptable)
    have own : registry.label? u.entityType = some "A" :=
      (Registry.label?_of_built built _ _).mpr List.mem_cons_self
    have same := labels registry
    rw [Registry.labelFor, own] at same
    cases given : registry.label? entityType with
    | none =>
        rw [given] at same
        exact absurd same labelled.2
    | some l =>
        have member := (Registry.label?_of_built built _ _).mp given
        cases List.mem_singleton.mp member
        rfl
  · rintro rfl registry
    rfl

/-! ## Exactness -/

/-- A urn that is made from parts has the text into which they are joined, and the parts into
which that text is divided; there is none just if one of these is empty. They are the given ones
just if the namespace and the entity type have no colons, and the label is that of the given
entity type just if the text is divided at it. -/
theorem new_exact (nameSpace entityType key : String) :
    let parts := divide nameSpace.toList entityType.toList key.toList
    (∀ e, new nameSpace entityType key = .error e ↔
      e.text = join nameSpace entityType key ∧ missing? parts = some e.fault) ∧
    (∀ u, new nameSpace entityType key = .ok u ↔
      (u.nameSpace.toList, u.entityType.toList, u.key.toList) = parts) ∧
    ∀ u, new nameSpace entityType key = .ok u →
      u.text = join nameSpace entityType key ∧
      ((u.nameSpace = nameSpace ∧ u.entityType = entityType ∧ u.key = key) ↔
        ':' ∉ nameSpace.toList ∧ ':' ∉ entityType.toList) ∧
      ((∀ registry : Registry,
        registry.labelFor u = (registry.label? entityType).getD unknownLabel) ↔
          parts.2.1 = entityType.toList) := by
  intro parts
  refine ⟨fun e => new_eq_error_iff, fun u => new_eq_ok_iff, ?_⟩
  intro u made
  have divided : (u.nameSpace.toList, u.entityType.toList, u.key.toList) = parts :=
    new_eq_ok_iff.mp made
  refine ⟨text_of_parse made, ?_, ?_⟩
  · rw [parts_eq_iff, divided]
    exact divide_eq_self_iff
  · rw [labelFor_eq_label?_iff, ← divided, String.toList_inj]

/-- The key may have colons. -/
theorem new_exact_nested :
    ∃ u, new "a" "person" "urn:b" = .ok u ∧ u.text = "urn:a:person:urn:b" ∧
      u.nameSpace = "a" ∧ u.entityType = "person" ∧ u.key = "urn:b" := by
  obtain ⟨-, made, exact_of⟩ := new_exact "a" "person" "urn:b"
  let u : Urn :=
    ⟨"a", "person", "urn:b", by decide, by decide, by decide, by decide, by decide⟩
  have done : new "a" "person" "urn:b" = .ok u := (made u).mpr (by decide)
  obtain ⟨text, parts, -⟩ := exact_of u done
  exact ⟨u, done, text, parts.mpr (by decide)⟩

/-- The colon in the namespace makes a person a group. -/
theorem new_shifts_parts :
    ∃ u, new "a:group" "person" "ann" = .ok u ∧
      u.nameSpace = "a" ∧ u.entityType = "group" ∧ u.key = "person:ann" :=
  ⟨⟨"a", "group", "person:ann", by decide, by decide, by decide, by decide, by decide⟩, by decide,
    rfl, rfl, rfl⟩

end RecordGraph.Urn
