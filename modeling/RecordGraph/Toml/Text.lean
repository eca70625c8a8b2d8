import RecordGraph.Json.Reader
import RecordGraph.Toml.Value

/-!
# Strings in TOML

The four kinds of strings. Each reader starts after the opening quotes and gives the
characters of the string and what follows the closing quotes.
-/

namespace RecordGraph.Toml

/-- Spaces and tabs. -/
def isBlank (c : Char) : Bool := c = ' ' || c = '\t'

def skipBlanks (cs : List Char) : List Char := cs.dropWhile isBlank

/-- Whether a character may stand for itself: all but control characters, save the tab. -/
def isPlain (c : Char) : Bool := c = '\t' || (32 ≤ c.toNat && c.toNat ≠ 127)

/-- The character with the code that hexadecimal digits spell. -/
def scalar? (digits : List Char) : Option Char := do
  let n ← digits.foldlM (fun n d => (Json.hexDigit? d).map (16 * n + ·)) 0
  if h : n.isValidChar then some (Char.ofNatAux n h) else none

/-- The character that a one-letter escape stands for. -/
def named? (c : Char) : Option Char :=
  match c with
  | '"' => some '"'
  | '\\' => some '\\'
  | 'b' => some '\x08'
  | 'f' => some '\x0c'
  | 'n' => some '\n'
  | 'r' => some '\r'
  | 't' => some '\t'
  | _ => none

/-- One more character in front of what was read. -/
def prepend (c : Char) (read : Option (List Char × List Char)) :
    Option (List Char × List Char) :=
  read.map fun (cs, rest) => (c :: cs, rest)

/-- A string between quotes on one line. -/
def basic? : List Char → Option (List Char × List Char)
  | [] => none
  | '"' :: rest => some ([], rest)
  | '\\' :: 'u' :: a :: b :: c :: d :: rest =>
      (scalar? [a, b, c, d]).bind fun x => prepend x (basic? rest)
  | '\\' :: 'U' :: a :: b :: c :: d :: e :: f :: g :: h :: rest =>
      (scalar? [a, b, c, d, e, f, g, h]).bind fun x => prepend x (basic? rest)
  | '\\' :: e :: rest => (named? e).bind fun x => prepend x (basic? rest)
  | c :: rest => if isPlain c && c ≠ '\\' then prepend c (basic? rest) else none

/-- A string between apostrophes on one line, without escapes. -/
def literal? : List Char → Option (List Char × List Char)
  | [] => none
  | '\'' :: rest => some ([], rest)
  | c :: rest => if isPlain c then prepend c (literal? rest) else none

/-- Whether a line ends here, but for blanks. -/
def endsLine (cs : List Char) : Bool :=
  match skipBlanks cs with
  | '\n' :: _ | '\r' :: '\n' :: _ => true
  | _ => false

/-- A string between triple quotes. A backslash at the end of a line takes the blanks and
line ends after it away; `skipping` says that this is going on. Up to two quotes may stand
before the closing ones. -/
def multiLine? : Bool → List Char → Option (List Char × List Char)
  | _, [] => none
  | skipping, '\r' :: '\n' :: rest =>
      if skipping then multiLine? true rest else prepend '\n' (multiLine? false rest)
  | skipping, '\n' :: rest =>
      if skipping then multiLine? true rest else prepend '\n' (multiLine? false rest)
  | _, '"' :: '"' :: '"' :: '"' :: '"' :: rest => some (['"', '"'], rest)
  | _, '"' :: '"' :: '"' :: '"' :: rest => some (['"'], rest)
  | _, '"' :: '"' :: '"' :: rest => some ([], rest)
  | _, '\\' :: 'u' :: a :: b :: c :: d :: rest =>
      (scalar? [a, b, c, d]).bind fun x => prepend x (multiLine? false rest)
  | _, '\\' :: 'U' :: a :: b :: c :: d :: e :: f :: g :: h :: rest =>
      (scalar? [a, b, c, d, e, f, g, h]).bind fun x => prepend x (multiLine? false rest)
  | _, '\\' :: e :: rest =>
      if endsLine (e :: rest) then multiLine? true (e :: rest)
      else (named? e).bind fun x => prepend x (multiLine? false rest)
  | skipping, c :: rest =>
      if skipping && isBlank c then multiLine? true rest
      else if isPlain c && c ≠ '\\' then prepend c (multiLine? false rest)
      else none

/-- A string between triple apostrophes. -/
def multiLineLiteral? : List Char → Option (List Char × List Char)
  | [] => none
  | '\r' :: '\n' :: rest => prepend '\n' (multiLineLiteral? rest)
  | '\n' :: rest => prepend '\n' (multiLineLiteral? rest)
  | '\'' :: '\'' :: '\'' :: '\'' :: '\'' :: rest => some (['\'', '\''], rest)
  | '\'' :: '\'' :: '\'' :: '\'' :: rest => some (['\''], rest)
  | '\'' :: '\'' :: '\'' :: rest => some ([], rest)
  | c :: rest => if isPlain c then prepend c (multiLineLiteral? rest) else none

/-- The text without a line end at its very start. -/
def afterLineEnd : List Char → List Char
  | '\r' :: '\n' :: rest => rest
  | '\n' :: rest => rest
  | cs => cs

/-- The string at the front of a text, if one starts there. -/
def string? : List Char → Option (List Char × List Char)
  | '"' :: '"' :: '"' :: rest => multiLine? false (afterLineEnd rest)
  | '"' :: rest => basic? rest
  | '\'' :: '\'' :: '\'' :: rest => multiLineLiteral? (afterLineEnd rest)
  | '\'' :: rest => literal? rest
  | _ => none

end RecordGraph.Toml
