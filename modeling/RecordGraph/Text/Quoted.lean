import RecordGraph.Text.Unprintable

/-!
# Quoted text

A text between double quotes on one line: quotes and backslashes are preceded by a
backslash, the common control characters have short names, and every other character
without a printed form is given by its code point.
-/

namespace RecordGraph.Text

/-- The escaped form of one character. -/
def escaped (c : Char) : List Char :=
  if c = '"' then ['\\', '"']
  else if c = '\\' then ['\\', '\\']
  else if c = '\x00' then ['\\', '0']
  else if c = '\t' then ['\\', 't']
  else if c = '\n' then ['\\', 'n']
  else if c = '\r' then ['\\', 'r']
  else if isUnprintable c then
    ['\\', 'u', '\x7b'] ++ Nat.toDigits 16 c.toNat ++ ['\x7d']
  else [c]

/-- The text in quotes with every character escaped that needs it. -/
def quoted (s : String) : String :=
  String.ofList ('"' :: s.toList.flatMap escaped ++ ['"'])

end RecordGraph.Text
