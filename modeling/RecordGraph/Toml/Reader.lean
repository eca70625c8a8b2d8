import RecordGraph.Toml.Scalar

/-!
# Reading TOML

A text is a list of lines: headers of tables and keys with their values, which may go on
over several lines. The lines are carried out one after another on a table that is empty
at first.
-/

namespace RecordGraph.Toml

/-- A line of a text. -/
inductive Line
  /-- The header of a table. -/
  | header (path : List String) (key : String)
  /-- The header of one more element of an array of tables. -/
  | element (path : List String) (key : String)
  | entry (path : List String) (key : String) (v : Toml)

/-- Whether a character may stand in a key without quotes. -/
def isBare (c : Char) : Bool := c.isAlphanum || c = '_' || c = '-'

/-- One part of a key, and what follows it. -/
def keyPart? (cs : List Char) : Option (String × List Char) :=
  match cs with
  | '"' :: rest => (basic? rest).map fun (key, rest) => (String.ofList key, rest)
  | '\'' :: rest => (literal? rest).map fun (key, rest) => (String.ofList key, rest)
  | cs =>
      let key := cs.takeWhile isBare
      if key.isEmpty then none else some (String.ofList key, cs.dropWhile isBare)

/-- A dotted key as the path to its last part, and what follows it after blanks. -/
def key? : Nat → List Char → Option ((List String × String) × List Char)
  | 0, _ => none
  | fuel + 1, cs => do
      let (part, rest) ← keyPart? (skipBlanks cs)
      match skipBlanks rest with
      | '.' :: rest => do
          let ((path, key), rest) ← key? fuel rest
          return ((part :: path, key), rest)
      | rest => return (([], part), rest)

/-- A comment up to the end of its line; none if a character may not stand in it. -/
def comment? (cs : List Char) : Option (List Char) :=
  let text := cs.takeWhile fun c => c ≠ '\n' && c ≠ '\r'
  if text.all isPlain then some (cs.dropWhile fun c => c ≠ '\n' && c ≠ '\r') else none

/-- What follows the blanks, line ends and comments between the items of an array. -/
def skipSpace? : Nat → List Char → Option (List Char)
  | 0, _ => none
  | fuel + 1, cs =>
      match skipBlanks cs with
      | '\n' :: rest => skipSpace? fuel rest
      | '\r' :: '\n' :: rest => skipSpace? fuel rest
      | '#' :: rest => (comment? rest).bind fun rest => skipSpace? fuel rest
      | rest => some rest

mutual

/-- The value at the front of a text inside `depth` containers, and what follows it. -/
def value? : Nat → Nat → List Char → Option (Toml × List Char)
  | 0, _, _ => none
  | fuel + 1, depth, cs =>
      match cs with
      | '[' :: rest =>
          if depth < 79 then
            (items? fuel (depth + 1) rest).map fun (items, rest) => (.arr items, rest)
          else none
      | '\x7b' :: rest =>
          if depth < 79 then
            match skipBlanks rest with
            | '\x7d' :: rest => some (.table .inline [], rest)
            | rest => do
                let (entries, rest) ← entries? fuel (depth + 1) rest
                return (← inlineTable? entries, rest)
          else none
      | '"' :: _ | '\'' :: _ =>
          (string? cs).map fun (text, rest) => (.str (String.ofList text), rest)
      | cs => scalarAt? cs

/-- The items of an array up to its bracket; a comma may follow the last. -/
def items? : Nat → Nat → List Char → Option (List Toml × List Char)
  | 0, _, _ => none
  | fuel + 1, depth, cs => do
      match ← skipSpace? (cs.length + 1) cs with
      | ']' :: rest => return ([], rest)
      | rest => do
          let (v, rest) ← value? fuel depth rest
          match ← skipSpace? (rest.length + 1) rest with
          | ',' :: rest => do
              let (vs, rest) ← items? fuel depth rest
              return (v :: vs, rest)
          | ']' :: rest => return ([v], rest)
          | _ => none

/-- One or more entries of an inline table up to its brace, all on one line. -/
def entries? :
    Nat → Nat → List Char → Option (List (List String × String × Toml) × List Char)
  | 0, _, _ => none
  | fuel + 1, depth, cs => do
      let ((path, key), rest) ← key? (cs.length + 1) cs
      let rest ← after? '=' rest
      let (v, rest) ← value? fuel depth (skipBlanks rest)
      match skipBlanks rest with
      | ',' :: rest => do
          let (others, rest) ← entries? fuel depth rest
          return ((path, key, v) :: others, rest)
      | '\x7d' :: rest => return ([(path, key, v)], rest)
      | _ => none

end

/-- The line at the front of a text, and what follows it. -/
def line? (cs : List Char) : Option (Line × List Char) :=
  match cs with
  | '[' :: '[' :: rest => do
      let ((path, key), rest) ← key? (rest.length + 1) rest
      return (.element path key, ← after? ']' (← after? ']' rest))
  | '[' :: rest => do
      let ((path, key), rest) ← key? (rest.length + 1) rest
      return (.header path key, ← after? ']' rest)
  | cs => do
      let ((path, key), rest) ← key? (cs.length + 1) cs
      let rest ← after? '=' rest
      let (v, rest) ← value? (2 * cs.length + 2) 0 (skipBlanks rest)
      return (.entry path key v, rest)

/-- What follows the end of a line. -/
def lineEnd? (cs : List Char) : Option (List Char) := do
  let rest ← match skipBlanks cs with
    | '#' :: rest => comment? rest
    | rest => some rest
  match rest with
  | [] => some []
  | '\n' :: rest | '\r' :: '\n' :: rest => some rest
  | _ => none

/-- All lines of a text. -/
def lines? : Nat → List Char → Option (List Line)
  | 0, _ => none
  | fuel + 1, cs => do
      match ← skipSpace? (cs.length + 1) cs with
      | [] => return []
      | rest => do
          let (line, rest) ← line? rest
          let rest ← lineEnd? rest
          return line :: (← lines? fuel rest)

/-- The path and the fields of the whole, while lines are carried out. -/
structure Progress where
  /-- The table under whose header the next keys stand. -/
  current : List String
  fields : Fields

/-- Carries out a line. -/
def Progress.step? (p : Progress) : Line → Option Progress
  | .header path key =>
      (openTable path key .defined p.fields).map fun (_, fields) => ⟨path ++ [key], fields⟩
  | .element path key =>
      (openElement path key .defined p.fields).map fun (_, fields) => ⟨path ++ [key], fields⟩
  | .entry path key v =>
      (alter false (store path key v) p.current .defined p.fields).map fun (_, fields) =>
        { p with fields := fields }

/-- The fields of the table that a text describes. -/
def ofText? (text : String) : Option Fields := do
  let cs := match text.toList with
    | '\ufeff' :: rest => rest
    | cs => cs
  let lines ← lines? (cs.length + 1) cs
  let done ← lines.foldlM Progress.step? ⟨[], []⟩
  return done.fields

end RecordGraph.Toml
