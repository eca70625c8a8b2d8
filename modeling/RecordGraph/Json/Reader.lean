import RecordGraph.Json.Number

/-!
# Reading JSON text

The reader turns characters into a draft by recursive descent. What follows a part is given
as the characters left, and nothing is left after a fault. Containers may stand in each
other up to 127 deep.
-/

namespace RecordGraph.Json

/-- The blanks between the parts of a text. -/
def isBlank (c : Char) : Bool := c = ' ' || c = '\t' || c = '\n' || c = '\r'

def skipBlanks (cs : List Char) : List Char := cs.dropWhile isBlank

/-- The part of a string that one character or one escape stands for. -/
inductive Piece
  | char (c : Char)
  /-- A code unit of sixteen bits. -/
  | unit (n : Nat)
deriving DecidableEq, Repr

/-- The character that a one-letter escape stands for. -/
def named? (c : Char) : Option Char :=
  match c with
  | '"' => some '"'
  | '\\' => some '\\'
  | '/' => some '/'
  | 'b' => some '\x08'
  | 'f' => some '\x0c'
  | 'n' => some '\n'
  | 'r' => some '\r'
  | 't' => some '\t'
  | _ => none

/-- The value of a hexadecimal digit. -/
def hexDigit? (c : Char) : Option Nat :=
  if '0' ≤ c ∧ c ≤ '9' then some (c.toNat - '0'.toNat)
  else if 'a' ≤ c ∧ c ≤ 'f' then some (c.toNat - 'a'.toNat + 10)
  else if 'A' ≤ c ∧ c ≤ 'F' then some (c.toNat - 'A'.toNat + 10)
  else none

/-- The pieces up to the closing quote, and what follows it; none at a control character, a
bad escape or the end of the text. -/
def pieces? : List Char → Option (List Piece × List Char)
  | [] => none
  | '"' :: rest => some ([], rest)
  | '\\' :: 'u' :: a :: b :: c :: d :: rest => do
      let unit := 16 * (16 * (16 * (← hexDigit? a) + (← hexDigit? b)) + (← hexDigit? c))
        + (← hexDigit? d)
      let (pieces, after) ← pieces? rest
      return (.unit unit :: pieces, after)
  | '\\' :: e :: rest => do
      let c ← named? e
      let (pieces, after) ← pieces? rest
      return (.char c :: pieces, after)
  | c :: rest =>
      if c.toNat < 32 ∨ c = '\\' then none
      else do
        let (pieces, after) ← pieces? rest
        return (.char c :: pieces, after)

/-- The text of pieces, where two units that form a surrogate pair are one character; none
if half a pair stands alone. -/
def joined? : List Piece → Option (List Char)
  | [] => some []
  | .char c :: rest => (joined? rest).map (c :: ·)
  | .unit high :: .unit low :: rest =>
      if 0xD800 ≤ high ∧ high < 0xDC00 then
        if 0xDC00 ≤ low ∧ low < 0xE000 then
          (joined? rest).map
            (Char.ofNat (0x10000 + 0x400 * (high - 0xD800) + (low - 0xDC00)) :: ·)
        else none
      else if 0xDC00 ≤ high ∧ high < 0xE000 then none
      else (joined? (.unit low :: rest)).map (Char.ofNat high :: ·)
  | .unit n :: rest =>
      if 0xD800 ≤ n ∧ n < 0xE000 then none else (joined? rest).map (Char.ofNat n :: ·)

/-- The string after its opening quote, and what follows it. -/
def readString (cs : List Char) : Draft × Option (List Char) :=
  match pieces? cs with
  | none => (.fault, none)
  | some (pieces, rest) =>
      match joined? pieces with
      | some text => (.str (String.ofList text), some rest)
      | none => (.unreadable, some rest)

/-- The word, if the text starts with it, and what follows it. -/
def readWord (word : String) (draft : Draft) (cs : List Char) : Draft × Option (List Char) :=
  if word.toList.isPrefixOf cs then (draft, some (cs.drop word.length)) else (.fault, none)

/-- The number at the front of a text. -/
def readNumber (cs : List Char) : Draft × Option (List Char) :=
  match Numeral.scan? cs with
  | some (n, rest) => (n.draft, some rest)
  | none => (.fault, none)

/-- A container that may be too deep inside others. -/
def atDepth (depth : Nat) (draft : Draft) : Draft :=
  if depth < 127 then draft else if draft.wellFormed then .unreadable else .fault

mutual

/-- The value at the front of a text inside `depth` containers. -/
def readValue : Nat → Nat → List Char → Draft × Option (List Char)
  | 0, _, _ => (.fault, none)
  | fuel + 1, depth, cs =>
      match skipBlanks cs with
      | [] => (.fault, none)
      | '[' :: rest =>
          match skipBlanks rest with
          | ']' :: rest => (atDepth depth (.arr [] true), some rest)
          | rest =>
              let (items, after) := readItems fuel (depth + 1) rest
              (atDepth depth (.arr items after.isSome), after)
      | '\x7b' :: rest =>
          match skipBlanks rest with
          | '\x7d' :: rest => (atDepth depth (.obj [] true), some rest)
          | rest =>
              let (members, after) := readMembers fuel (depth + 1) rest
              (atDepth depth (.obj members after.isSome), after)
      | '"' :: rest => readString rest
      | 'n' :: rest => readWord "null" .null ('n' :: rest)
      | 't' :: rest => readWord "true" (.bool true) ('t' :: rest)
      | 'f' :: rest => readWord "false" (.bool false) ('f' :: rest)
      | rest => readNumber rest

/-- One or more items and the closing bracket. -/
def readItems : Nat → Nat → List Char → List Draft × Option (List Char)
  | 0, _, _ => ([], none)
  | fuel + 1, depth, cs =>
      match readValue fuel depth cs with
      | (item, none) => ([item], none)
      | (item, some rest) =>
          match skipBlanks rest with
          | ']' :: rest => ([item], some rest)
          | ',' :: rest =>
              let (items, after) := readItems fuel depth rest
              (item :: items, after)
          | _ => ([item], none)

/-- One or more members and the closing brace. A key that is no string is kept, but nothing
is read after it. -/
def readMembers : Nat → Nat → List Char → List (Draft × Draft) × Option (List Char)
  | 0, _, _ => ([], none)
  | fuel + 1, depth, cs =>
      match skipBlanks cs with
      | '"' :: rest =>
          match readString rest with
          | (key, none) => ([(key, .fault)], none)
          | (key, some rest) =>
              match skipBlanks rest with
              | ':' :: rest =>
                  match readValue fuel depth rest with
                  | (value, none) => ([(key, value)], none)
                  | (value, some rest) =>
                      match skipBlanks rest with
                      | '\x7d' :: rest => ([(key, value)], some rest)
                      | ',' :: rest =>
                          let (members, after) := readMembers fuel depth rest
                          ((key, value) :: members, after)
                      | _ => ([(key, value)], none)
              | _ => ([(key, .fault)], none)
      | rest => ([((readValue fuel depth rest).1, .fault)], none)

end

/-- A text read as one value. -/
structure Document where
  root : Draft
  /-- Whether nothing but blanks follows the value. -/
  ended : Bool

/-- Reads a text. Every two levels of the descent consume a character. -/
def Document.ofText (text : String) : Document :=
  let cs := text.toList
  match readValue (2 * cs.length + 2) 0 cs with
  | (root, some rest) => ⟨root, (skipBlanks rest).isEmpty⟩
  | (root, none) => ⟨root, false⟩

/-- The value that a whole text spells. -/
def ofText? (text : String) : Option Json :=
  let document := Document.ofText text
  if document.ended then document.root.value? else none

end RecordGraph.Json
