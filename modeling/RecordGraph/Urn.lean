/-!
# Urns

A urn names an entity: `urn:`, a namespace, an entity type and a key, with colons between
them. Only the key may hold colons of its own, so the text determines the parts.
-/

namespace RecordGraph

/-- A urn by its parts. -/
structure Urn where
  nameSpace : String
  entityType : String
  key : String
  nameSpace_ne : nameSpace ≠ ""
  entityType_ne : entityType ≠ ""
  key_ne : key ≠ ""
  nameSpace_free : ':' ∉ nameSpace.toList
  entityType_free : ':' ∉ entityType.toList
deriving DecidableEq, Repr

/-- What a text lacks to be a urn. -/
inductive UrnFault
  | scheme
  | nameSpace
  | entityType
  | key
deriving DecidableEq, Repr

/-- A text that is no urn, and the first thing it lacks. -/
structure UrnError where
  text : String
  fault : UrnFault
deriving DecidableEq, Repr

def UrnFault.message : UrnFault → String
  | scheme => "must start with 'urn:'"
  | nameSpace => "missing namespace"
  | entityType => "missing entity type"
  | key => "missing key"

def UrnError.message (e : UrnError) : String :=
  "Invalid urn '" ++ e.text ++ "': " ++ e.fault.message

namespace Urn

/-- The text of a urn with the given parts. -/
def join (nameSpace entityType key : String) : String :=
  "urn:" ++ nameSpace ++ ":" ++ entityType ++ ":" ++ key

/-- The text of a urn. -/
def text (u : Urn) : String := join u.nameSpace u.entityType u.key

/-- Urns are ordered by their texts, code point by code point. -/
instance : Ord Urn where
  compare a b := compare a.text b.text

/-- The characters before the first colon and those after it. -/
def cut (cs : List Char) : List Char × List Char :=
  (cs.takeWhile (· ≠ ':'), (cs.dropWhile (· ≠ ':')).drop 1)

theorem colon_notMem_cut (cs : List Char) : ':' ∉ (cut cs).1 := by
  intro member
  have free := List.all_eq_true.1 (List.all_takeWhile (l := cs) (p := (· ≠ ':'))) _ member
  simp at free

theorem ofList_ne_empty {cs : List Char} (h : cs ≠ []) : String.ofList cs ≠ "" := by
  intro empty
  exact h (by simpa using congrArg String.toList empty)

/-- The urn with the given parts, as far as they are not empty. -/
def ofParts? (nameSpace entityType key : List Char) (free₁ : ':' ∉ nameSpace)
    (free₂ : ':' ∉ entityType) : Except UrnFault Urn :=
  if h₁ : nameSpace = [] then .error .nameSpace
  else if h₂ : entityType = [] then .error .entityType
  else if h₃ : key = [] then .error .key
  else .ok {
    nameSpace := String.ofList nameSpace
    entityType := String.ofList entityType
    key := String.ofList key
    nameSpace_ne := ofList_ne_empty h₁
    entityType_ne := ofList_ne_empty h₂
    key_ne := ofList_ne_empty h₃
    nameSpace_free := by simpa using free₁
    entityType_free := by simpa using free₂ }

/-- Reads the parts of a urn from its characters. -/
def ofChars? (cs : List Char) : Except UrnFault Urn :=
  let rest := (cut cs).2
  if (cut cs).1 = ['u', 'r', 'n'] then
    ofParts? (cut rest).1 (cut (cut rest).2).1 (cut (cut rest).2).2
      (colon_notMem_cut _) (colon_notMem_cut _)
  else .error .scheme

/-- Reads a urn. -/
def parse (s : String) : Except UrnError Urn := (ofChars? s.toList).mapError (⟨s, ·⟩)

/-- The urn with the text made of the given parts. -/
def new (nameSpace entityType key : String) : Except UrnError Urn :=
  parse (join nameSpace entityType key)

end Urn

end RecordGraph
