import RecordGraph.Numeral

/-!
# Paths to settings

A path names a place in a tree of settings: keys with points between them, and indices in
brackets, such as `a.b[0].c`.
-/

namespace RecordGraph.Settings

/-- One step of a path. -/
inductive Step
  | key (name : String)
  | index (i : Int)
deriving DecidableEq, Repr

namespace Step

/-- Whether a character may stand in a key. -/
def isKeyPart (c : Char) : Bool := c.isAlphanum || c = '_' || c = '-' || c = ' '

/-- The key at the front of a text. -/
def key? (cs : List Char) : Option (Step × List Char) :=
  let name := cs.takeWhile isKeyPart
  if name.isEmpty then none else some (.key (String.ofList name), cs.dropWhile isKeyPart)

def isBlank (c : Char) : Bool := c = ' ' || c = '\t'

/-- A whole number of at most 63 bits, with a minus sign if it is negative. -/
def integer? (cs : List Char) : Option Int := do
  let i ← match cs with
    | '-' :: rest => (Numeral.nat? rest).map fun n => -(n : Int)
    | cs => (Numeral.nat? cs).map fun n => (n : Int)
  (Numeral.word? i).map Int64.toInt

/-- The index at the front of a text, after its opening bracket. -/
def index? (cs : List Char) : Option (Step × List Char) := do
  let cs := cs.dropWhile isBlank
  let inside c := c = '-' || Numeral.isDigit c
  let i ← integer? (cs.takeWhile inside)
  match (cs.dropWhile inside).dropWhile isBlank with
  | ']' :: rest => some (.index i, rest)
  | _ => none

/-- The steps after the first. -/
def steps? : Nat → List Char → Option (List Step)
  | _, [] => some []
  | 0, _ => none
  | fuel + 1, '.' :: rest => do
      let (step, rest) ← key? rest
      return step :: (← steps? fuel rest)
  | fuel + 1, '[' :: rest => do
      let (step, rest) ← index? rest
      return step :: (← steps? fuel rest)
  | _, _ => none

/-- The path that a text spells. -/
def path? (text : String) : Option (List Step) := do
  let (first, rest) ← key? text.toList
  return first :: (← steps? rest.length rest)

end Step

end RecordGraph.Settings
