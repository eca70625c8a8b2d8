import RecordGraph.Double.Text
import RecordGraph.Toml.Text

/-!
# Numbers, dates and truth values in TOML

All of these are words without blanks, except that a blank may stand between a date and a
time. Digits may be grouped by single underscores.
-/

namespace RecordGraph.Toml

/-- Whether a character can be part of a word. -/
def isWordPart (c : Char) : Bool :=
  c.isAlphanum || c = '_' || c = '+' || c = '-' || c = '.' || c = ':'

/-- Digits without the underscores that group them. -/
def ungrouped? (isDigit : Char → Bool) : List Char → Option (List Char)
  | [] => none
  | [d] => if isDigit d then some [d] else none
  | d :: '_' :: rest => if isDigit d then (ungrouped? isDigit rest).map (d :: ·) else none
  | d :: rest => if isDigit d then (ungrouped? isDigit rest).map (d :: ·) else none

/-- The value of digits of a base. -/
def based? (base : Nat) (cs : List Char) : Option Int64 := do
  let isDigit c := (Json.hexDigit? c).any (· < base)
  let digits ← ungrouped? isDigit cs
  Numeral.word? (digits.foldl (fun n d => base * n + (Json.hexDigit? d).getD 0) 0)

/-- Decimal digits without a needless zero in front. -/
def decimal? (cs : List Char) : Option (List Char) :=
  match ungrouped? Numeral.isDigit cs with
  | some ('0' :: _ :: _) => none
  | digits => digits

/-- The sign of a word and the rest of it. -/
def sign : List Char → Bool × List Char
  | '-' :: rest => (true, rest)
  | '+' :: rest => (false, rest)
  | cs => (false, cs)

/-- A whole number, decimal or with the mark of another base. -/
def integer? (cs : List Char) : Option Int64 :=
  match cs with
  | '0' :: 'x' :: rest => based? 16 rest
  | '0' :: 'o' :: rest => based? 8 rest
  | '0' :: 'b' :: rest => based? 2 rest
  | cs => do
      let (negative, cs) := sign cs
      let n ← Numeral.nat? (← decimal? cs)
      Numeral.word? (if negative then -(n : Int) else n)

/-- The exponent of a float, or zero if there is none. -/
def exponent? : List Char → Option Int
  | [] => some 0
  | e :: rest =>
      if e = 'e' ∨ e = 'E' then do
        let (negative, cs) := sign rest
        let n ← Numeral.nat? (← ungrouped? Numeral.isDigit cs)
        return if negative then -(n : Int) else n
      else none

/-- A number with a fraction, an exponent or both. One that is too large is refused, but
only if it is positive. -/
def float? (cs : List Char) : Option Double := do
  let (negative, cs) := sign cs
  let inside c := c.isDigit || c = '_'
  let whole ← decimal? (cs.takeWhile inside)
  let (fraction, rest) ← match cs.dropWhile inside with
    | '.' :: rest =>
        (ungrouped? Numeral.isDigit (rest.takeWhile inside)).map fun digits =>
          (digits, rest.dropWhile inside)
    | [] => none
    | rest => some ([], rest)
  let shift ← exponent? rest
  let coefficient ← Numeral.nat? (whole ++ fraction)
  let x := Double.ofDecimal negative coefficient (shift - fraction.length)
  if x.isInfinite ∧ ¬ negative then none else some x

/-- The numbers that have names. -/
def namedFloat? (cs : List Char) : Option Double :=
  let (negative, cs) := sign cs
  if cs = "inf".toList then some (Double.infinity negative)
  else if cs = "nan".toList then some (Double.nan negative)
  else none

/-- A fixed number of digits at the front of a text, within bounds. -/
def field? (count low high : Nat) (cs : List Char) : Option (Nat × List Char) := do
  let digits := cs.take count
  let n ← Numeral.nat? digits
  if digits.length = count ∧ low ≤ n ∧ n ≤ high then some (n, cs.drop count) else none

/-- What follows a mark. -/
def after? (mark : Char) : List Char → Option (List Char)
  | [] => none
  | c :: rest => if c = mark then some rest else none

/-- The days of a month. -/
def monthLength (year month : Nat) : Nat :=
  if month = 2 then
    if year % 4 = 0 ∧ (year % 100 ≠ 0 ∨ year % 400 = 0) then 29 else 28
  else if month = 4 ∨ month = 6 ∨ month = 9 ∨ month = 11 then 30
  else 31

/-- A number of a clock or a calendar, with two digits. -/
def padded (width n : Nat) : List Char :=
  let digits := Numeral.digits n
  List.replicate (width - digits.length) '0' ++ digits

/-- The date at the front of a text. -/
def date? (cs : List Char) : Option (List Char × List Char) := do
  let (year, cs) ← field? 4 0 9999 cs
  let (month, cs) ← field? 2 1 12 (← after? '-' cs)
  let (day, cs) ← field? 2 1 (monthLength year month) (← after? '-' cs)
  return (padded 4 year ++ '-' :: padded 2 month ++ '-' :: padded 2 day, cs)

/-- Fractions of a second: nine digits at most are kept, and no zeros at the end. -/
def fractionText (digits : List Char) : List Char :=
  let kept := ((digits.take 9).reverse.dropWhile (· = '0')).reverse
  if kept.isEmpty then [] else '.' :: kept

/-- The time of day at the front of a text. -/
def time? (cs : List Char) : Option (List Char × List Char) := do
  let (hour, cs) ← field? 2 0 23 cs
  let (minute, cs) ← field? 2 0 59 (← after? ':' cs)
  let (second, cs) ← field? 2 0 60 (← after? ':' cs)
  let text := padded 2 hour ++ ':' :: padded 2 minute ++ ':' :: padded 2 second
  match cs with
  | '.' :: rest =>
      let digits := rest.takeWhile Numeral.isDigit
      if digits.isEmpty then none
      else some (text ++ fractionText digits, rest.dropWhile Numeral.isDigit)
  | cs => some (text, cs)

/-- The offset from universal time that ends a text, if there is one. -/
def offset? (cs : List Char) : Option (List Char) :=
  match cs with
  | [] => some []
  | ['Z'] | ['z'] => some ['Z']
  | mark :: rest =>
      if mark = '+' ∨ mark = '-' then do
        let (hour, rest) ← field? 2 0 23 rest
        let (minute, rest) ← field? 2 0 59 (← after? ':' rest)
        let shown := if hour = 0 ∧ minute = 0 then '+' else mark
        if rest.isEmpty then some (shown :: padded 2 hour ++ ':' :: padded 2 minute) else none
      else none

/-- The normal text of a date, a time or both, given as a word. -/
def moment? (cs : List Char) : Option (List Char) :=
  match date? cs with
  | some (date, []) => some date
  | some (date, mark :: rest) =>
      if mark = 'T' ∨ mark = 't' then do
        let (time, rest) ← time? rest
        return date ++ 'T' :: time ++ (← offset? rest)
      else none
  | none =>
      match time? cs with
      | some (time, []) => some time
      | _ => none

/-- The value of a word. -/
def word (cs : List Char) : Option Toml :=
  if cs = "true".toList then some (.bool true)
  else if cs = "false".toList then some (.bool false)
  else
    match namedFloat? cs with
    | some x => some (.float x)
    | none =>
        match moment? cs with
        | some text => some (.str (String.ofList text))
        | none =>
            match integer? cs with
            | some i => some (.int i)
            | none => (float? cs).map .float

/-- Whether a word is a date without a time. -/
def isDate (cs : List Char) : Bool :=
  match date? cs with
  | some (_, []) => true
  | _ => false

/-- The word at the front of a text, and what follows it. A date takes a time with it that
stands after a single space. -/
def scalarAt? (cs : List Char) : Option (Toml × List Char) :=
  let first := cs.takeWhile isWordPart
  let rest := cs.dropWhile isWordPart
  match isDate first, rest with
  | true, ' ' :: more =>
      match moment? (first ++ 'T' :: more.takeWhile isWordPart) with
      | some text => some (.str (String.ofList text), more.dropWhile isWordPart)
      | none => (word first).map (·, rest)
  | _, _ => (word first).map (·, rest)

end RecordGraph.Toml
