import RecordGraph.Decode.Records
import RecordGraph.Proofs.Success
import RecordGraph.Proofs.Text.Bytes
import RecordGraph.Proofs.Urn.Text

/-!
# The grammar of urns

A text is read as a urn just if it is one, and the parts are those of the text. A urn may also
be kept as its text and the byte offsets of the entity type: the parts are then cut out of the
text, and urns are compared with their offsets. Both ways agree.
-/

namespace RecordGraph.Urn

open Text (bytes slice?)

/-- A text is a urn with the given parts. -/
structure Spells (s nameSpace entityType key : String) : Prop where
  text : s = "urn:" ++ nameSpace ++ ":" ++ entityType ++ ":" ++ key
  nameSpace_ne : nameSpace ≠ ""
  entityType_ne : entityType ≠ ""
  key_ne : key ≠ ""
  nameSpace_free : ':' ∉ nameSpace.toList
  entityType_free : ':' ∉ entityType.toList

/-! ## Urns by offsets -/

/-- A urn as its text, with the byte offsets at which the entity type starts and stops. -/
structure Layout where
  text : String
  typeStart : Nat
  typeEnd : Nat
deriving DecidableEq

/-- At most so many pieces cut off at colons, and what follows them. -/
def pieces : Nat → List Char → List (List Char)
  | 0, cs => [cs]
  | count + 1, cs => if ':' ∈ cs then (cut cs).1 :: pieces count (cut cs).2 else [cs]

namespace Layout

/-- The layout of a text with the given pieces. -/
def ofPieces (s scheme nameSpace entityType key : String) : Except UrnError Layout :=
  if scheme ≠ "urn" then .error ⟨s, .scheme⟩
  else if nameSpace = "" then .error ⟨s, .nameSpace⟩
  else if entityType = "" then .error ⟨s, .entityType⟩
  else if key = "" then .error ⟨s, .key⟩
  else
    let start := "urn".utf8ByteSize + 1 + nameSpace.utf8ByteSize + 1
    .ok ⟨s, start, start + entityType.utf8ByteSize⟩

/-- Reads a urn from the first four pieces of its text; a piece that is not there is empty. -/
def read (s : String) : Except UrnError Layout :=
  let piece (i : Nat) : String := String.ofList ((pieces 3 s.toList).getD i [])
  ofPieces s (piece 0) (piece 1) (piece 2) (piece 3)

def nameSpace? (l : Layout) : Option String :=
  slice? l.text ("urn".utf8ByteSize + 1) (l.typeStart - 1)

def entityType? (l : Layout) : Option String := slice? l.text l.typeStart l.typeEnd

def key? (l : Layout) : Option String := slice? l.text (l.typeEnd + 1) l.text.utf8ByteSize

/-- Layouts are ordered by the bytes of their texts, then by their offsets. -/
instance : Ord Layout where
  compare a b :=
    (compare (bytes a.text) (bytes b.text)).then
      ((compare a.typeStart b.typeStart).then (compare a.typeEnd b.typeEnd))

end Layout

/-- The layout of the text of a urn. -/
def layout (u : Urn) : Layout :=
  let start := "urn".utf8ByteSize + 1 + u.nameSpace.utf8ByteSize + 1
  ⟨u.text, start, start + u.entityType.utf8ByteSize⟩

/-! ## Reading -/

theorem pieces_nil (count : Nat) : pieces count [] = [[]] := by
  cases count <;> rfl

theorem getD_pieces_zero (count : Nat) (cs : List Char) :
    (pieces (count + 1) cs).getD 0 [] = (cut cs).1 := by
  by_cases member : ':' ∈ cs
  · simp only [pieces, if_pos member, List.getD_cons_zero]
  · simp only [pieces, if_neg member, List.getD_cons_zero, cut_of_notMem member]

theorem getD_pieces_succ (count i : Nat) (cs : List Char) :
    (pieces (count + 1) cs).getD (i + 1) [] = (pieces count (cut cs).2).getD i [] := by
  by_cases member : ':' ∈ cs
  · simp only [pieces, if_pos member, List.getD_cons_succ]
  · simp only [pieces, if_neg member, List.getD_cons_succ, cut_of_notMem member, pieces_nil]
    cases i <;> rfl

/-- A urn is read by cutting off its scheme, its namespace and its entity type. -/
theorem cuts_of_parse {s : String} {u : Urn} (parsed : parse s = .ok u) :
    let rest := (cut s.toList).2
    (cut s.toList).1 = ['u', 'r', 'n'] ∧ (cut rest).1 = u.nameSpace.toList ∧
      cut (cut rest).2 = (u.entityType.toList, u.key.toList) := by
  intro rest
  have read := mapError_eq_ok_iff.1 parsed
  unfold ofChars? at read
  dsimp only at read
  split at read
  case isFalse => cases read
  case isTrue scheme =>
    have parts := ofParts?_eq_ok_iff.mp read
    simp only [Prod.mk.injEq] at parts
    obtain ⟨nameSpace, entityType, key⟩ := parts
    exact ⟨scheme, nameSpace.symm, Prod.ext entityType.symm key.symm⟩

/-- A urn that is read has the text that it is read from. -/
theorem text_of_parse {s : String} {u : Urn} (parsed : parse s = .ok u) : u.text = s := by
  obtain ⟨scheme, nameSpace, tail⟩ := cuts_of_parse parsed
  have present {t : String} (ne : t ≠ "") : t.toList ≠ [] := by
    intro empty
    exact ne (String.toList_injective empty)
  apply String.toList_injective
  -- the key is not empty, so there is a colon before it, and so on back to the scheme
  have third := eq_append_cut (cut (cut s.toList).2).2 (by rw [tail]; exact present u.key_ne)
  have second := eq_append_cut (cut s.toList).2 (by rw [third]; simp)
  have first := eq_append_cut s.toList (by rw [second]; simp)
  rw [toList_text, first, second, third, scheme, nameSpace, tail]

theorem ofList_eq_empty_iff {cs : List Char} : String.ofList cs = "" ↔ cs = [] := by
  constructor
  · intro empty
    exact Classical.byContradiction fun ne => ofList_ne_empty ne empty
  · rintro rfl
    rfl

theorem Layout.read_eq_ofPieces (s : String) :
    let rest := (cut s.toList).2
    Layout.read s = ofPieces s (String.ofList (cut s.toList).1) (String.ofList (cut rest).1)
      (String.ofList (cut (cut rest).2).1) (String.ofList (cut (cut rest).2).2) := by
  intro rest
  unfold Layout.read
  dsimp only
  rw [getD_pieces_zero, getD_pieces_succ, getD_pieces_zero, getD_pieces_succ, getD_pieces_succ,
    getD_pieces_zero, getD_pieces_succ, getD_pieces_succ, getD_pieces_succ]
  rfl

theorem Layout.ofPieces_ofList {s : String} {nameSpace entityType key : List Char}
    {free₁ : ':' ∉ nameSpace} {free₂ : ':' ∉ entityType}
    (text : ∀ u, ofParts? nameSpace entityType key free₁ free₂ = .ok u → u.text = s) :
    ofPieces s "urn" (String.ofList nameSpace) (String.ofList entityType) (String.ofList key) =
      ((ofParts? nameSpace entityType key free₁ free₂).mapError (⟨s, ·⟩)).map layout := by
  unfold ofPieces
  unfold ofParts? at text ⊢
  rw [if_neg (not_not_intro rfl)]
  by_cases first : nameSpace = []
  · rw [if_pos (ofList_eq_empty_iff.2 first), dif_pos first]
    rfl
  rw [if_neg (mt ofList_eq_empty_iff.1 first), dif_neg first]
  by_cases second : entityType = []
  · rw [if_pos (ofList_eq_empty_iff.2 second), dif_pos second]
    rfl
  rw [if_neg (mt ofList_eq_empty_iff.1 second), dif_neg second]
  by_cases third : key = []
  · rw [if_pos (ofList_eq_empty_iff.2 third), dif_pos third]
    rfl
  rw [if_neg (mt ofList_eq_empty_iff.1 third), dif_neg third]
  rw [dif_neg first, dif_neg second, dif_neg third] at text
  have same := text _ rfl
  simp only [Except.mapError, Except.map, layout, same]

/-- Reading the layout is reading the urn. -/
theorem Layout.read_eq (s : String) : Layout.read s = (parse s).map layout := by
  have text := fun u => @text_of_parse s u
  rw [Layout.read_eq_ofPieces]
  unfold parse ofChars? at text ⊢
  dsimp only at text ⊢
  by_cases scheme : (cut s.toList).1 = ['u', 'r', 'n']
  · rw [if_pos scheme] at text ⊢
    rw [scheme]
    exact Layout.ofPieces_ofList fun u read => text u (mapError_eq_ok_iff.2 read)
  · have differs : String.ofList (cut s.toList).1 ≠ "urn" := by
      intro same
      exact scheme (by simpa using congrArg String.toList same)
    rw [if_neg scheme, Layout.ofPieces, if_pos differs]
    rfl

/-! ## Parts -/

/-- The offsets of a layout cut the parts of the urn out of its text. -/
theorem cut_layout (u : Urn) :
    u.layout.nameSpace? = some u.nameSpace ∧ u.layout.entityType? = some u.entityType ∧
      u.layout.key? = some u.key := by
  have scheme : "urn:".utf8ByteSize = "urn".utf8ByteSize + 1 := rfl
  have colon : ":".utf8ByteSize = 1 := rfl
  have text : u.layout.text =
      "urn:" ++ u.nameSpace ++ ":" ++ u.entityType ++ ":" ++ u.key := rfl
  refine ⟨?_, ?_, ?_⟩
  · refine Text.slice?_eq_some "urn:" (":" ++ u.entityType ++ ":" ++ u.key) ?_ scheme.symm
      (Nat.add_sub_cancel _ 1)
    simp only [text, String.append_assoc]
  · refine Text.slice?_eq_some ("urn:" ++ u.nameSpace ++ ":") (":" ++ u.key) ?_ ?_ rfl
    · simp only [text, String.append_assoc]
    · simp only [String.utf8ByteSize_append, scheme, colon]
      rfl
  · have length : u.layout.typeEnd + 1 =
        ("urn:" ++ u.nameSpace ++ ":" ++ u.entityType ++ ":").utf8ByteSize := by
      simp only [String.utf8ByteSize_append, scheme, colon]
      rfl
    refine Text.slice?_eq_some _ "" ?_ length ?_
    · rw [text, String.append_empty]
    · rw [text, String.utf8ByteSize_append, length]

/-! ## Order -/

/-- Layouts of urns are ordered like the bytes of their texts. -/
theorem compare_layout (u v : Urn) :
    compare u.layout v.layout = compare (bytes u.text) (bytes v.text) := by
  by_cases same : u.text = v.text
  · obtain rfl := text_injective same
    change (compare (bytes u.text) (bytes u.text)).then ((compare _ _).then (compare _ _)) = _
    simp only [Std.ReflOrd.compare_self]
    rfl
  · have differ : compare (bytes u.text) (bytes v.text) ≠ .eq := by
      intro equal
      exact same (Text.bytes_injective (Std.LawfulEqOrd.eq_of_compare equal))
    change (compare (bytes u.text) (bytes v.text)).then _ = _
    generalize compare (bytes u.text) (bytes v.text) = order at differ
    cases order with
    | eq => exact absurd rfl differ
    | lt => rfl
    | gt => rfl

/-! ## The grammar -/

theorem spells_of_parse {s : String} {u : Urn} (parsed : parse s = .ok u) :
    Spells s u.nameSpace u.entityType u.key where
  text := (text_of_parse parsed).symm
  nameSpace_ne := u.nameSpace_ne
  entityType_ne := u.entityType_ne
  key_ne := u.key_ne
  nameSpace_free := u.nameSpace_free
  entityType_free := u.entityType_free

theorem Spells.parse {s nameSpace entityType key : String}
    (spells : Spells s nameSpace entityType key) :
    ∃ u, parse s = .ok u ∧ u.nameSpace = nameSpace ∧ u.entityType = entityType ∧ u.key = key := by
  let u : Urn := ⟨nameSpace, entityType, key, spells.nameSpace_ne, spells.entityType_ne,
    spells.key_ne, spells.nameSpace_free, spells.entityType_free⟩
  have text : s = u.text := spells.text
  refine ⟨u, ?_, rfl, rfl, rfl⟩
  rw [text, parse_text]

theorem decode_str (source : Source) (s : String) (u : Urn) :
    decode source (.str s) = .ok u ↔ Urn.parse s = .ok u := by
  change (Urn.parse s).mapError DecodeError.urn = .ok u ↔ _
  exact mapError_eq_ok_iff

/-- A text of data that is a string and nothing more decodes like the string. -/
theorem decode_ofText_str {s text : String} (whole : Json.Document.ofText text = ⟨.str s, true⟩)
    (u : Urn) : Decoder.ofText decode text = .ok u ↔ Urn.parse s = .ok u := by
  rw [← decode_str .text, Decoder.ofText, whole]
  change (decode .text (.str s) >>= .ok) = .ok u ↔ _
  rw [bind_eq_ok_iff]
  constructor
  · rintro ⟨v, decoded, same⟩
    cases same
    exact decoded
  · intro decoded
    exact ⟨u, decoded, rfl⟩

/-- Exactly the texts of the grammar are read as urns, by themselves and in data. The parts of a
urn are those of its text in the only way to divide it, the offsets cut them out, and the
text is given back. Urns are equal and ordered like the bytes of their texts, and with their
offsets they are so too. -/
theorem parse_exact (s : String) :
    ((∃ u, parse s = .ok u) ↔
      ∃ nameSpace entityType key, Spells s nameSpace entityType key) ∧
    (Layout.read s = (parse s).map layout) ∧
    (∀ source u, decode source (.str s) = .ok u ↔ parse s = .ok u) ∧
    (∀ text, Json.Document.ofText text = ⟨.str s, true⟩ →
      ∀ u, Decoder.ofText decode text = .ok u ↔ parse s = .ok u) ∧
    ∀ u, parse s = .ok u →
      (∀ nameSpace entityType key, Spells s nameSpace entityType key ↔
        nameSpace = u.nameSpace ∧ entityType = u.entityType ∧ key = u.key) ∧
      (u.layout.nameSpace? = some u.nameSpace ∧
        u.layout.entityType? = some u.entityType ∧ u.layout.key? = some u.key) ∧
      (u.text = s ∧ u.layout.text = s ∧ u.toJson = .str s) ∧
      ∀ t v, parse t = .ok v →
        (u = v ↔ s = t) ∧ (u.layout = v.layout ↔ s = t) ∧
        compare u v = compare (bytes s) (bytes t) ∧
        compare u.layout v.layout = compare (bytes s) (bytes t) := by
  refine ⟨⟨?_, ?_⟩, Layout.read_eq s, fun source u => decode_str source s u,
    fun text whole => decode_ofText_str whole, ?_⟩
  · rintro ⟨u, parsed⟩
    exact ⟨_, _, _, spells_of_parse parsed⟩
  · rintro ⟨_, _, _, spells⟩
    obtain ⟨u, parsed, -⟩ := spells.parse
    exact ⟨u, parsed⟩
  intro u parsed
  have text := text_of_parse parsed
  refine ⟨?_, cut_layout u, ⟨text, text, congrArg Json.str text⟩, ?_⟩
  · intro nameSpace entityType key
    constructor
    · intro spells
      obtain ⟨v, again, rfl, rfl, rfl⟩ := spells.parse
      rw [parsed] at again
      cases again
      exact ⟨rfl, rfl, rfl⟩
    · rintro ⟨rfl, rfl, rfl⟩
      exact spells_of_parse parsed
  · intro t v parsed'
    have text' := text_of_parse parsed'
    subst text text'
    refine ⟨⟨congrArg Urn.text, text_injective⟩, ⟨congrArg Layout.text, ?_⟩,
      (Text.compare_bytes _ _).symm, compare_layout u v⟩
    intro same
    rw [text_injective same]

/-- The key is a urn, and no part is in ASCII. -/
theorem parse_exact_nested :
    let s := "urn:lü:dätaset:urn:lü:€:𝄞"
    ∃ u, parse s = .ok u ∧ u.layout = ⟨s, 8, 16⟩ ∧
      u.layout.nameSpace? = some "lü" ∧ u.layout.entityType? = some "dätaset" ∧
      u.layout.key? = some "urn:lü:€:𝄞" ∧ u.toJson = .str s ∧
      Decoder.ofText decode "\"urn:lü:dätaset:urn:lü:€:𝄞\"" = .ok u := by
  intro s
  have spells : Spells s "lü" "dätaset" "urn:lü:€:𝄞" :=
    ⟨rfl, by decide, by decide, by decide, by decide, by decide⟩
  obtain ⟨⟨_, grammar⟩, _, _, inText, exact_of⟩ := parse_exact s
  obtain ⟨u, parsed⟩ := grammar ⟨_, _, _, spells⟩
  obtain ⟨unique, ⟨nameSpace, entityType, key⟩, ⟨text, _, data⟩, _⟩ := exact_of u parsed
  obtain ⟨first, second, third⟩ := (unique _ _ _).mp spells
  rw [← first] at nameSpace
  rw [← second] at entityType
  rw [← third] at key
  refine ⟨u, parsed, ?_, nameSpace, entityType, key, data, (inText _ rfl u).mpr parsed⟩
  rw [layout, text, ← first, ← second]
  decide

end RecordGraph.Urn
