import Mathlib.Data.String.Basic

/-!
# Texts as bytes

A text is stored as its characters in UTF-8. The encoding keeps the order: texts compare like
their bytes. A part of a text can be cut out at byte offsets that are not inside a character.
-/

namespace RecordGraph.Text

/-- The bytes of a text. -/
def bytes (s : String) : List UInt8 := s.toByteArray.data.toList

theorem bytes_injective {s t : String} (same : bytes s = bytes t) : s = t :=
  String.toByteArray_inj.1 (ByteArray.ext (Array.toList_inj.1 same))

/-- The part of a text between two byte offsets; none if one of them is inside a character
or beyond the end, or if they are out of order. -/
def slice? (s : String) (start stop : Nat) : Option String :=
  if h : String.Pos.Raw.IsValid s ⟨start⟩ ∧ String.Pos.Raw.IsValid s ⟨stop⟩ ∧ start ≤ stop then
    some (String.extract ⟨⟨start⟩, h.1⟩ ⟨⟨stop⟩, h.2.1⟩)
  else none

/-- A part is cut out at the offsets that the text before it and its own length give. -/
theorem slice?_eq_some {s part : String} {start stop : Nat} (before after : String)
    (text : s = before ++ part ++ after) (starts : start = before.utf8ByteSize)
    (stops : stop = start + part.utf8ByteSize) : slice? s start stop = some part := by
  subst text stops starts
  have start : String.Pos.Raw.IsValid (before ++ part ++ after) ⟨before.utf8ByteSize⟩ :=
    String.Pos.Raw.isValid_iff_exists_append.2
      ⟨before, part ++ after, String.append_assoc .., rfl⟩
  have stop : String.Pos.Raw.IsValid (before ++ part ++ after)
      ⟨before.utf8ByteSize + part.utf8ByteSize⟩ :=
    String.Pos.Raw.isValid_iff_exists_append.2
      ⟨before ++ part, after, rfl, by rw [String.rawEndPos, String.utf8ByteSize_append]⟩
  rw [slice?, dif_pos ⟨start, stop, Nat.le_add_right _ _⟩]
  congr 1
  apply String.toByteArray_inj.1
  change (before ++ part ++ after).toByteArray.extract before.utf8ByteSize
    (before.utf8ByteSize + part.utf8ByteSize) = part.toByteArray
  rw [String.toByteArray_append, String.toByteArray_append, ByteArray.append_assoc,
    ← String.size_toByteArray, ← String.size_toByteArray]
  have skip := @ByteArray.extract_append_size_add before.toByteArray
    (part.toByteArray ++ after.toByteArray) 0 part.toByteArray.size
  exact skip.trans (ByteArray.extract_append_eq_left rfl)

example : slice? "äb" 0 2 = some "ä" := by decide

example : slice? "äb" 0 1 = none := by decide

/-! ## The order of encodings -/

/-- What is left of a number without so many groups of six bits. -/
def above : Nat → Nat → Nat
  | 0, v => v
  | count + 1, v => above count (v / 64)

/-- A number as a leading byte, which a mark tells from others, and so many bytes with six
bits each. -/
def sextets (mark : Nat) : Nat → Nat → List UInt8
  | 0, v => [UInt8.ofNat (v + mark)]
  | count + 1, v => sextets mark count (v / 64) ++ [UInt8.ofNat (v % 64 + 128)]

theorem cons_lt_cons_of_lt {a b : Nat} (less : a < b) (small : b < 256) (xs ys : List UInt8) :
    UInt8.ofNat a :: xs < UInt8.ofNat b :: ys := by
  refine List.cons_lt_cons_iff.2 (.inl ?_)
  rw [UInt8.lt_iff_toNat_lt, UInt8.toNat_ofNat_of_lt' (less.trans small),
    UInt8.toNat_ofNat_of_lt' small]
  exact less

theorem sextets_lt {mark : Nat} (count : Nat) {a b : Nat} (less : a < b)
    (small : above count b + mark < 256) (xs ys : List UInt8) :
    sextets mark count a ++ xs < sextets mark count b ++ ys := by
  induction count generalizing a b xs ys with
  | zero => exact cons_lt_cons_of_lt (Nat.add_lt_add_right less mark) small xs ys
  | succ count ih =>
      simp only [sextets, List.append_assoc, List.cons_append, List.nil_append]
      rcases Nat.lt_or_ge (a / 64) (b / 64) with differ | level
      · exact ih differ small _ _
      · have same : a / 64 = b / 64 := by omega
        rw [same]
        exact List.append_left_lt (cons_lt_cons_of_lt (by omega) (by omega) xs ys)

/-- The encoding of a character, by the number of its bytes. -/
theorem encodeChar_cases (c : Char) :
    let v := c.val.toNat
    (v ≤ 127 ∧ String.utf8EncodeChar c = sextets 0 0 v) ∨
    (127 < v ∧ v ≤ 2047 ∧ String.utf8EncodeChar c = sextets 192 1 v) ∨
    (2047 < v ∧ v ≤ 65535 ∧ String.utf8EncodeChar c = sextets 224 2 v) ∨
    (65535 < v ∧ v < 1114112 ∧ String.utf8EncodeChar c = sextets 240 3 v) := by
  intro v
  have bound : v < 1114112 := by
    have valid := c.valid
    unfold UInt32.isValidChar Nat.isValidChar at valid
    omega
  have twice (n : Nat) : n / 64 / 64 = n / 4096 := by omega
  have thrice (n : Nat) : n / 4096 / 64 = n / 262144 := by omega
  have size : v ≤ 127 ∨ 127 < v ∧ v ≤ 2047 ∨ 2047 < v ∧ v ≤ 65535 ∨ 65535 < v := by omega
  rcases size with high | ⟨low, high⟩ | ⟨low, high⟩ | low
  · refine .inl ⟨high, ?_⟩
    simp only [String.utf8EncodeChar, sextets, v, if_pos high, Nat.add_zero]
  · refine .inr (.inl ⟨low, high, ?_⟩)
    have lead : v / 64 % 32 = v / 64 := by omega
    simp (disch := omega) only [String.utf8EncodeChar, sextets, if_neg, if_pos high, v]
    rw [lead]
    rfl
  · refine .inr (.inr (.inl ⟨low, high, ?_⟩))
    have lead : v / 4096 % 16 = v / 4096 := by omega
    simp (disch := omega) only [String.utf8EncodeChar, sextets, if_neg, if_pos high, twice, v]
    rw [lead]
    rfl
  · refine .inr (.inr (.inr ⟨low, bound, ?_⟩))
    have lead : v / 262144 % 8 = v / 262144 := by omega
    simp (disch := omega) only [String.utf8EncodeChar, sextets, if_neg, twice, thrice, v]
    rw [lead]
    rfl

/-- The encoding of a character is below that of a larger one, whatever follows them. -/
theorem encodeChar_lt {c d : Char} (less : c < d) (xs ys : List UInt8) :
    String.utf8EncodeChar c ++ xs < String.utf8EncodeChar d ++ ys := by
  have less : c.val.toNat < d.val.toNat := less
  rcases encodeChar_cases c with ⟨_, one⟩ | ⟨_, _, one⟩ | ⟨_, _, one⟩ | ⟨_, _, one⟩ <;>
  rcases encodeChar_cases d with ⟨_, two⟩ | ⟨_, _, two⟩ | ⟨_, _, two⟩ | ⟨_, _, two⟩ <;>
  rw [one, two] <;>
  -- Encodings of one length differ in a group of bits, others in the leading byte.
  first
  | exact sextets_lt _ less (by simp only [above]; omega) xs ys
  | exact absurd less (by omega)
  | exact cons_lt_cons_of_lt (by omega) (by omega) _ _

theorem bytes_eq_flatMap (s : String) : bytes s = s.toList.flatMap String.utf8EncodeChar := by
  rw [bytes]
  conv_lhs => rw [← String.ofList_toList (s := s)]
  rw [String.toByteArray_ofList, List.utf8Encode]
  simp

theorem flatMap_encodeChar_lt {cs ds : List Char} (less : cs < ds) :
    cs.flatMap String.utf8EncodeChar < ds.flatMap String.utf8EncodeChar := by
  induction cs generalizing ds with
  | nil =>
      cases ds with
      | nil => cases less
      | cons d ds =>
          obtain ⟨byte, more, encoded⟩ :=
            List.exists_cons_of_ne_nil (@String.utf8EncodeChar_ne_nil d)
          rw [List.flatMap_nil, List.flatMap_cons, encoded]
          exact List.nil_lt_cons _ _
  | cons c cs ih =>
      cases ds with
      | nil => cases less
      | cons d ds =>
          rw [List.flatMap_cons, List.flatMap_cons]
          rcases List.cons_lt_cons_iff.1 less with first | ⟨rfl, rest⟩
          · exact encodeChar_lt first _ _
          · exact List.append_left_lt (ih rest)

theorem bytes_lt_bytes {s t : String} (less : s < t) : bytes s < bytes t := by
  rw [bytes_eq_flatMap, bytes_eq_flatMap]
  exact flatMap_encodeChar_lt (String.lt_iff_toList_lt.1 less)

theorem compare_eq_lt_of_lt {xs ys : List UInt8} (less : xs < ys) : compare xs ys = .lt := by
  rw [List.compare_eq_compareLex]
  induction less with
  | nil => rfl
  | rel first =>
      rw [List.compareLex_cons_cons, Std.compare_eq_lt.2 first]
      rfl
  | cons _ ih =>
      rw [List.compareLex_cons_cons, Std.ReflOrd.compare_self, ih]
      rfl

/-- Texts are ordered like their bytes. -/
theorem compare_bytes (s t : String) : compare (bytes s) (bytes t) = compare s t := by
  rcases lt_trichotomy s t with less | rfl | more
  · rw [compare_lt_iff_lt.2 less, compare_eq_lt_of_lt (bytes_lt_bytes less)]
  · rw [Std.ReflOrd.compare_self, Std.ReflOrd.compare_self]
  · rw [compare_gt_iff_gt.2 more, Std.OrientedCmp.gt_iff_lt,
      compare_eq_lt_of_lt (bytes_lt_bytes more)]

end RecordGraph.Text
