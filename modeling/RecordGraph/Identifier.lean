/-!
# Identifiers

The names that may stand in the text of a statement: ASCII letters, digits and underscores,
and no digit first.
-/

namespace RecordGraph.Identifier

/-- Letters and the underscore. -/
def isStart (c : Char) : Bool := c.isAlpha || c = '_'

/-- Letters, digits and the underscore. -/
def isPart (c : Char) : Bool := c.isAlphanum || c = '_'

/-- Whether a text is an identifier. -/
def isValid (s : String) : Bool :=
  match s.toList with
  | [] => false
  | c :: rest => isStart c && rest.all isPart

end RecordGraph.Identifier
