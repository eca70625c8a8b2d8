import RecordGraph.Urn

/-!
# Urns and their texts

Reading the text of a urn gives the urn back, so urns with one text are the same urn.
-/

namespace RecordGraph.Urn

theorem ne_colon_of_notMem {name : List Char} (free : ':' ∉ name) :
    ∀ c ∈ name, decide (c ≠ ':') = true := by
  intro c member
  have differs : c ≠ ':' := by
    rintro rfl
    exact free member
  exact decide_eq_true differs

/-- A name without colons is cut off at the colon that follows it. -/
theorem cut_append {name : List Char} (free : ':' ∉ name) (rest : List Char) :
    cut (name ++ ':' :: rest) = (name, rest) := by
  have inside := ne_colon_of_notMem free
  rw [cut, List.takeWhile_append_of_pos inside, List.dropWhile_append_of_pos inside]
  simp

theorem cut_of_notMem {cs : List Char} (free : ':' ∉ cs) : cut cs = (cs, []) := by
  have inside := ne_colon_of_notMem free
  have whole := @List.takeWhile_append_of_pos _ _ cs [] inside
  have none := @List.dropWhile_append_of_pos _ _ cs [] inside
  rw [List.append_nil] at whole none
  rw [cut, whole, none]
  simp

/-- Where something follows the first colon, a cut loses nothing. -/
theorem eq_append_cut (cs : List Char) (more : (cut cs).2 ≠ []) :
    cs = (cut cs).1 ++ ':' :: (cut cs).2 := by
  by_cases member : ':' ∈ cs
  · obtain ⟨name, rest, rfl, free⟩ := List.eq_append_cons_of_mem member
    rw [cut_append free]
  · rw [cut_of_notMem member] at more
    exact absurd rfl more

theorem toList_join (nameSpace entityType key : String) :
    (join nameSpace entityType key).toList = ['u', 'r', 'n'] ++ ':' :: (nameSpace.toList ++
      ':' :: (entityType.toList ++ ':' :: key.toList)) := by
  simp [join, String.toList_append]

theorem toList_text (u : Urn) :
    u.text.toList = ['u', 'r', 'n'] ++ ':' :: (u.nameSpace.toList ++
      ':' :: (u.entityType.toList ++ ':' :: u.key.toList)) :=
  toList_join _ _ _

theorem ofParts?_toList (u : Urn) :
    ofParts? u.nameSpace.toList u.entityType.toList u.key.toList u.nameSpace_free
      u.entityType_free = .ok u := by
  have some {s : String} (ne : s ≠ "") : s.toList ≠ [] := by
    intro empty
    exact ne (String.toList_injective empty)
  unfold ofParts?
  rw [dif_neg (some u.nameSpace_ne), dif_neg (some u.entityType_ne), dif_neg (some u.key_ne)]
  simp only [String.ofList_toList]

theorem ofParts?_eq_ok_iff {nameSpace entityType key : List Char} {free₁ : ':' ∉ nameSpace}
    {free₂ : ':' ∉ entityType} {u : Urn} :
    ofParts? nameSpace entityType key free₁ free₂ = .ok u ↔
      (u.nameSpace.toList, u.entityType.toList, u.key.toList) =
        (nameSpace, entityType, key) := by
  constructor
  · intro read
    unfold ofParts? at read
    split at read
    · cases read
    split at read
    · cases read
    split at read
    · cases read
    cases read
    simp only [String.toList_ofList]
  · intro same
    cases same
    exact ofParts?_toList u

/-- The text of a urn is read as that urn. -/
theorem parse_text (u : Urn) : parse u.text = .ok u := by
  have scheme : cut u.text.toList = (['u', 'r', 'n'], u.nameSpace.toList ++
      ':' :: (u.entityType.toList ++ ':' :: u.key.toList)) := by
    rw [toList_text]
    exact cut_append (by decide) _
  have read : ofChars? u.text.toList = .ok u := by
    unfold ofChars?
    simp only [scheme, cut_append u.nameSpace_free, cut_append u.entityType_free, ↓reduceIte]
    exact ofParts?_toList u
  rw [parse, read]
  rfl

theorem text_injective {u v : Urn} (same : u.text = v.text) : u = v := by
  have read : parse u.text = parse v.text := congrArg parse same
  rw [parse_text, parse_text] at read
  exact Except.ok.inj read

/-! ## Persons

Particular records are about these. -/

/-- A person, by a key of one namespace. -/
def person (key : String) (key_ne : key ≠ "") : Urn where
  nameSpace := "a"
  entityType := "person"
  key := key
  nameSpace_ne := by decide
  entityType_ne := by decide
  key_ne := key_ne
  nameSpace_free := by decide
  entityType_free := by decide

def ann : Urn := person "ann" (by decide)

def bob : Urn := person "bob" (by decide)

def cay : Urn := person "cay" (by decide)

def dan : Urn := person "dan" (by decide)

end RecordGraph.Urn
