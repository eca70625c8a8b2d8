import RecordGraph.Cypher
import RecordGraph.Identifier

/-!
# The words of a text

A text falls into words, which are longest runs of identifier characters, and single marks
between them. In a template whose names are identifiers no piece runs into the next, so the
words of its text are the words of its pieces.
-/

namespace RecordGraph.Cypher

/-- A longest run of identifier characters, or any other character. -/
inductive Token
  | word (cs : List Char)
  | mark (c : Char)
deriving DecidableEq

/-- Tokens with one more character of a word before them. -/
def Token.extend (c : Char) : List Token → List Token
  | .word w :: later => .word (c :: w) :: later
  | later => .word [c] :: later

/-- The tokens of a text. -/
def tokens : List Char → List Token
  | [] => []
  | c :: rest =>
      if Identifier.isPart c then Token.extend c (tokens rest) else .mark c :: tokens rest

/-- The text of a token if it is a word. -/
def Token.word? : Token → Option String
  | word cs => some (String.ofList cs)
  | mark _ => none

/-- The words of a text. -/
def words (cs : List Char) : List String := (tokens cs).filterMap Token.word?

/-- Whether a text begins with a mark. -/
def opensApart (cs : List Char) : Bool := cs.head?.any (!Identifier.isPart ·)

/-- Whether a text ends with a mark. -/
def closesApart (cs : List Char) : Bool := cs.getLast?.any (!Identifier.isPart ·)

theorem Token.extend_append {ts : List Token} (nonempty : ts ≠ []) (c : Char) (us : List Token) :
    extend c (ts ++ us) = extend c ts ++ us := by
  cases ts with
  | nil => exact absurd rfl nonempty
  | cons t later => cases t <;> rfl

theorem tokens_part {c : Char} (part : Identifier.isPart c = true) (rest : List Char) :
    tokens (c :: rest) = Token.extend c (tokens rest) := by
  rw [tokens, if_pos part]

theorem tokens_mark {c : Char} (mark : Identifier.isPart c = false) (rest : List Char) :
    tokens (c :: rest) = .mark c :: tokens rest := by
  rw [tokens, mark, if_neg Bool.false_ne_true]

theorem tokens_ne_nil (c : Char) (rest : List Char) : tokens (c :: rest) ≠ [] := by
  cases part : Identifier.isPart c with
  | false =>
      rw [tokens_mark part]
      exact List.cons_ne_nil _ _
  | true =>
      rw [tokens_part part]
      unfold Token.extend
      split <;> exact List.cons_ne_nil _ _

/-- A text that begins with a mark is not run into. -/
theorem tokens_append_of_opens (xs : List Char) {ys : List Char} (opens : opensApart ys = true) :
    tokens (xs ++ ys) = tokens xs ++ tokens ys := by
  induction xs with
  | nil => rfl
  | cons c rest ih =>
      cases part : Identifier.isPart c with
      | false => rw [List.cons_append, tokens_mark part, tokens_mark part, ih, List.cons_append]
      | true =>
          rw [List.cons_append, tokens_part part, tokens_part part, ih]
          cases rest with
          | nil =>
              cases ys with
              | nil => cases opens
              | cons d more =>
                  have mark : Identifier.isPart d = false := by simpa [opensApart] using opens
                  rw [tokens_mark mark]
                  rfl
          | cons d more => exact Token.extend_append (tokens_ne_nil d more) c _

/-- A text that ends with a mark runs into nothing. -/
theorem tokens_append_of_closes {xs : List Char} (closes : closesApart xs = true)
    (ys : List Char) : tokens (xs ++ ys) = tokens xs ++ tokens ys := by
  induction xs with
  | nil => cases closes
  | cons c rest ih =>
      cases rest with
      | nil =>
          have mark : Identifier.isPart c = false := by simpa [closesApart] using closes
          rw [List.cons_append, tokens_mark mark, tokens_mark mark]
          rfl
      | cons d more =>
          have last : closesApart (d :: more) = true := by
            rwa [closesApart, List.getLast?_cons_cons] at closes
          cases part : Identifier.isPart c with
          | false =>
              rw [List.cons_append, tokens_mark part, tokens_mark part, ih last, List.cons_append]
          | true =>
              rw [List.cons_append, tokens_part part, tokens_part part, ih last]
              exact Token.extend_append (tokens_ne_nil d more) c _

/-- A text of identifier characters is one word. -/
theorem tokens_word {w : List Char} (nonempty : w ≠ [])
    (parts : ∀ c ∈ w, Identifier.isPart c = true) : tokens w = [.word w] := by
  induction w with
  | nil => exact absurd rfl nonempty
  | cons c rest ih =>
      rw [tokens_part (parts c List.mem_cons_self)]
      cases rest with
      | nil => rfl
      | cons d more =>
          rw [ih (List.cons_ne_nil d more) fun x later => parts x (List.mem_cons_of_mem c later)]
          rfl

theorem isPart_of_isStart {c : Char} (start : Identifier.isStart c = true) :
    Identifier.isPart c = true := by
  unfold Identifier.isStart at start
  unfold Identifier.isPart Char.isAlphanum
  rw [Bool.or_eq_true] at start ⊢
  rcases start with letter | underscore
  · left
    rw [letter]
    rfl
  · exact .inr underscore

/-- An identifier is not empty and has identifier characters only. -/
theorem parts_of_isValid {s : String} (valid : Identifier.isValid s = true) :
    s.toList ≠ [] ∧ ∀ c ∈ s.toList, Identifier.isPart c = true := by
  unfold Identifier.isValid at valid
  cases chars : s.toList with
  | nil =>
      rw [chars] at valid
      cases valid
  | cons c rest =>
      rw [chars, Bool.and_eq_true, List.all_eq_true] at valid
      refine ⟨List.cons_ne_nil c rest, ?_⟩
      intro d member
      rcases List.mem_cons.mp member with rfl | later
      · exact isPart_of_isStart valid.1
      · exact valid.2 d later

theorem words_of_isValid {s : String} (valid : Identifier.isValid s = true) :
    words s.toList = [s] := by
  obtain ⟨nonempty, parts⟩ := parts_of_isValid valid
  rw [words, tokens_word nonempty parts]
  simp [Token.word?]

/-! ## Templates -/

namespace Fragment

/-- The characters of a piece. -/
def chars (f : Fragment) : List Char := f.text.toList

/-- Whether a piece begins with a mark, whatever its name is. -/
def opens : Fragment → Bool
  | fixed s => opensApart s.toList
  | name _ => false
  | param _ => true

/-- Whether a piece ends with a mark, whatever its name is. -/
def closes : Fragment → Bool
  | fixed s => closesApart s.toList
  | name _ | param _ => false

/-- The words of a piece whose name is an identifier. -/
def words : Fragment → List String
  | fixed s => Cypher.words s.toList
  | name s | param s => [s]

/-- The name of a label or property. -/
def names : Fragment → List String
  | name s => [s]
  | fixed _ | param _ => []

/-- The name of a parameter. -/
def params : Fragment → List String
  | param s => [s]
  | fixed _ | name _ => []

/-- Whether the name of a piece, if it has one, is an identifier. -/
def isClean : Fragment → Bool
  | fixed _ => true
  | name s | param s => Identifier.isValid s

theorem opens_chars {f : Fragment} (opens : f.opens = true) : opensApart f.chars = true := by
  cases f with
  | fixed s => exact opens
  | name s => cases opens
  | param s =>
      simp [chars, text, opensApart, String.toList_append]
      decide

theorem closes_chars {f : Fragment} (closes : f.closes = true) : closesApart f.chars = true := by
  cases f with
  | fixed s => exact closes
  | name s => cases closes
  | param s => cases closes

theorem words_chars {f : Fragment} (clean : f.isClean = true) :
    Cypher.words f.chars = f.words := by
  cases f with
  | fixed s => rfl
  | name s => exact words_of_isValid clean
  | param s =>
      have dollar : (Fragment.param s).chars = '$' :: s.toList := by
        simp [chars, text, String.toList_append]
      rw [dollar, Cypher.words, tokens_mark (by decide)]
      exact words_of_isValid clean

end Fragment

namespace Template

/-- The characters of a template's text. -/
def chars (t : Template) : List Char := t.flatMap Fragment.chars

/-- The words of a template's pieces. -/
def words (t : Template) : List String := t.flatMap Fragment.words

/-- Whether no piece can run into the next. -/
def isSpaced : Template → Bool
  | [] => true
  | f :: rest => (f.closes || rest.head?.all Fragment.opens) && isSpaced rest

/-- Whether all names are identifiers. -/
def isClean (t : Template) : Bool := t.all Fragment.isClean

theorem toList_text (t : Template) : (text t).toList = chars t := by
  unfold text chars
  induction t with
  | nil => rfl
  | cons f rest ih =>
      rw [List.map_cons, List.flatMap_cons, ← ih]
      simp [Fragment.chars]

theorem opens_of_head {t : Template} (opens : t.head?.all Fragment.opens = true) :
    t = [] ∨ opensApart (chars t) = true := by
  cases t with
  | nil => exact .inl rfl
  | cons f rest =>
      right
      have first := Fragment.opens_chars opens
      unfold chars
      rw [List.flatMap_cons]
      cases here : f.chars with
      | nil =>
          rw [here] at first
          cases first
      | cons c later =>
          rw [here] at first
          exact first

/-- The words of a text are the words of the pieces that it is put together from. -/
theorem words_text {t : Template} (spaced : isSpaced t = true) (clean : isClean t = true) :
    Cypher.words (text t).toList = words t := by
  rw [toList_text]
  induction t with
  | nil => rfl
  | cons f rest ih =>
      rw [isSpaced, Bool.and_eq_true, Bool.or_eq_true] at spaced
      rw [isClean, List.all_cons, Bool.and_eq_true] at clean
      have split : tokens (f.chars ++ chars rest) = tokens f.chars ++ tokens (chars rest) := by
        rcases spaced.1 with closes | opens
        · exact tokens_append_of_closes (Fragment.closes_chars closes) _
        · rcases opens_of_head opens with rfl | opens
          · simp [chars, tokens]
          · exact tokens_append_of_opens _ opens
      have later := ih spaced.2 clean.2
      unfold Cypher.words at later
      rw [words, List.flatMap_cons, ← Fragment.words_chars clean.1]
      change (tokens (f.chars ++ chars rest)).filterMap Token.word? = _
      rw [split, List.filterMap_append, later]
      rfl

theorem isSpaced_append {s t : Template} (left : isSpaced s = true) (right : isSpaced t = true)
    (apart : s.getLast?.all Fragment.closes = true ∨ t.head?.all Fragment.opens = true) :
    isSpaced (s ++ t) = true := by
  induction s with
  | nil => exact right
  | cons f rest ih =>
      rw [isSpaced, Bool.and_eq_true] at left
      rw [List.cons_append, isSpaced, Bool.and_eq_true]
      cases rest with
      | nil =>
          refine ⟨?_, right⟩
          rw [Bool.or_eq_true]
          exact apart
      | cons g more =>
          refine ⟨left.1, ih left.2 ?_⟩
          rwa [List.getLast?_cons_cons] at apart

theorem isClean_iff {t : Template} :
    isClean t = true ↔
      (∀ name ∈ names t, Identifier.isValid name = true) ∧
        ∀ param ∈ params t, Identifier.isValid param = true := by
  induction t with
  | nil => simp [isClean, names, params]
  | cons f rest ih =>
      have later : isClean (f :: rest) = true ↔ f.isClean = true ∧ isClean rest = true := by
        rw [isClean, List.all_cons, Bool.and_eq_true]
        rfl
      rw [later, ih]
      cases f with
      | fixed s => simp [Fragment.isClean, names, params]
      | name s =>
          simp only [Fragment.isClean, names, params, List.filterMap_cons, List.forall_mem_cons,
            and_assoc]
      | param s =>
          simp only [Fragment.isClean, names, params, List.filterMap_cons, List.forall_mem_cons]
          exact and_left_comm

theorem names_eq_flatMap (t : Template) : names t = t.flatMap Fragment.names := by
  induction t with
  | nil => rfl
  | cons f rest ih =>
      rw [List.flatMap_cons, ← ih]
      cases f <;> rfl

theorem params_eq_flatMap (t : Template) : params t = t.flatMap Fragment.params := by
  induction t with
  | nil => rfl
  | cons f rest ih =>
      rw [List.flatMap_cons, ← ih]
      cases f <;> rfl

end Template

end RecordGraph.Cypher
