/-!
# Cypher templates

A statement's text is put together from fixed words, names and places for parameters. Data
never enters the text: it is bound to the parameters.
-/

namespace RecordGraph.Cypher

/-- A piece of a statement's text. -/
inductive Fragment
  | fixed (s : String)
  /-- A label or a property name. -/
  | name (s : String)
  /-- The place of a parameter. -/
  | param (s : String)
deriving DecidableEq, Repr

abbrev Template := List Fragment

def Fragment.text : Fragment → String
  | fixed s | name s => s
  | param s => "$" ++ s

/-- The text of a template. -/
def Template.text (t : Template) : String := String.join (t.map Fragment.text)

/-- The names in a template. -/
def Template.names (t : Template) : List String :=
  t.filterMap fun f =>
    match f with
    | .name s => some s
    | _ => none

/-- The parameters of a template. -/
def Template.params (t : Template) : List String :=
  t.filterMap fun f =>
    match f with
    | .param s => some s
    | _ => none

/-- A node with a label whose urn is a parameter. -/
def node (binding label param : String) : Template :=
  [.fixed ("(" ++ binding ++ ":"), .name label, .fixed " \x7burn: ", .param param,
    .fixed "\x7d)"]

/-- A node with a label, or any node. -/
def nodeOrAny (binding : String) (label : Option String) (param : String) : Template :=
  match label with
  | some label => node binding label param
  | none => [.fixed "()"]

/-- Fields that must equal parameters, one after another. -/
def equalities (filterParam : String → String) : List String → Template
  | [] => []
  | [f] => [.name f, .fixed ": ", .param (filterParam f)]
  | f :: rest =>
      .name f :: .fixed ": " :: .param (filterParam f) :: .fixed ", " :: equalities filterParam rest

/-- The condition on an edge, which is left out when nothing is asked for. -/
def criteria (filterParam : String → String) (filter : List String) : Template :=
  if filter.isEmpty then []
  else .fixed " \x7b" :: equalities filterParam filter ++ [.fixed "\x7d"]

/-- An edge with a label from the node before it to the node after it. -/
def edge (binding label : String) (condition : Template) : Template :=
  .fixed ("-[" ++ binding ++ ":") :: .name label :: condition ++ [.fixed "]->"]

end RecordGraph.Cypher
