import RecordGraph.Cypher
import RecordGraph.Record
import RecordGraph.Text.Quoted

/-!
# Statements

An operation says what a statement does. It determines the text, and a statement adds the
values of the parameters; a store may work from the text or from the operation.
-/

namespace RecordGraph

/-- What a statement does. -/
inductive Operation
  /-- Creates the node unless it is there, and adds properties to it. -/
  | upsertNode (label : String)
  /-- Deletes the node and all its edges. -/
  | deleteNode (label : String)
  /-- Creates the node unless it is there. -/
  | mergeNode (label : String)
  /-- Creates the edge unless it is there, and adds properties to it. -/
  | upsertEdge (sourceLabel destinationLabel relationship : String)
  /-- Deletes the edges between two nodes whose fields have the bound values. -/
  | deleteEdge (sourceLabel destinationLabel relationship : String) (filter : List String)
  /-- Deletes all edges of a label with the bound ends. -/
  | removeEdges (policy : RemovalPolicy) (sourceLabel destinationLabel : Option String)
      (relationship : String)
  | matchNodes (label : String)
  | matchEdges (sourceLabel destinationLabel relationship : String)
  | matchEdgesFromSource (sourceLabel relationship : String)
deriving DecidableEq, Repr

/-- A statement with the values of its parameters. -/
structure Statement where
  operation : Operation
  text : String
  params : PropertyMap

namespace Param

def urn : String := "urn"

def source : String := "source_urn"

def destination : String := "destination_urn"

def properties : String := "properties"

/-- The parameter of a field that must have a certain value. -/
def filter (field : String) : String := "filter_" ++ field

end Param

namespace Operation

/-- Whether nothing is written. -/
def isRead : Operation → Bool
  | matchNodes _ | matchEdges .. | matchEdgesFromSource .. => true
  | _ => false

/-- The template of an operation. -/
def template : Operation → Cypher.Template
  | upsertNode label =>
      .fixed "MERGE " :: Cypher.node "node" label Param.urn
        ++ [.fixed " SET node += ", .param Param.properties, .fixed " RETURN node"]
  | deleteNode label =>
      .fixed "MATCH " :: Cypher.node "node" label Param.urn ++ [.fixed " DETACH DELETE node"]
  | mergeNode label =>
      .fixed "MERGE " :: Cypher.node "node" label Param.urn ++ [.fixed " RETURN node"]
  | upsertEdge sourceLabel destinationLabel relationship =>
      .fixed "MATCH " :: Cypher.node "source" sourceLabel Param.source
        ++ .fixed "," :: Cypher.node "destination" destinationLabel Param.destination
        ++ .fixed " MERGE (source)" :: Cypher.edge "r" relationship []
        ++ [.fixed "(destination) SET r += ", .param Param.properties]
  | deleteEdge sourceLabel destinationLabel relationship filter =>
      .fixed "MATCH " :: Cypher.node "source" sourceLabel Param.source
        ++ Cypher.edge "relation" relationship (Cypher.criteria Param.filter filter)
        ++ Cypher.node "destination" destinationLabel Param.destination
        ++ [.fixed " DELETE relation"]
  | removeEdges _ sourceLabel destinationLabel relationship =>
      .fixed "MATCH " :: Cypher.nodeOrAny "source" sourceLabel Param.source
        ++ Cypher.edge "relation" relationship []
        ++ Cypher.nodeOrAny "destination" destinationLabel Param.destination
        ++ [.fixed " DELETE relation"]
  | matchNodes label =>
      .fixed "MATCH " :: Cypher.node "node" label Param.urn
        ++ [.fixed " RETURN properties(node) AS props"]
  | matchEdges sourceLabel destinationLabel relationship =>
      .fixed "MATCH " :: Cypher.node "source" sourceLabel Param.source
        ++ Cypher.edge "r" relationship []
        ++ Cypher.node "destination" destinationLabel Param.destination
        ++ [.fixed " RETURN properties(r) AS props"]
  | matchEdgesFromSource sourceLabel relationship =>
      .fixed "MATCH " :: Cypher.node "source" sourceLabel Param.source
        ++ Cypher.edge "r" relationship []
        ++ [.fixed "() RETURN properties(r) AS props"]

/-- The text of an operation. -/
def text (op : Operation) : String := op.template.text

/-- The name of an operation's kind in messages. -/
def kind : Operation → String
  | upsertNode _ => "UpsertNode"
  | deleteNode _ => "DeleteNode"
  | mergeNode _ => "MergeNode"
  | upsertEdge .. => "UpsertEdge"
  | deleteEdge .. => "DeleteEdge"
  | removeEdges .. => "RemoveEdges"
  | matchNodes _ => "MatchNodes"
  | matchEdges .. => "MatchEdges"
  | matchEdgesFromSource .. => "MatchEdgesFromSource"

/-- A label that may be missing, in messages. -/
def optionalText : Option String → String
  | some label => "Some(" ++ Text.quoted label ++ ")"
  | none => "None"

/-- The fields of an operation in messages, each with its name. -/
def describedFields : Operation → List (String × String)
  | upsertNode label | deleteNode label | mergeNode label | matchNodes label =>
      [("label", Text.quoted label)]
  | upsertEdge sourceLabel destinationLabel relationship
  | matchEdges sourceLabel destinationLabel relationship =>
      [("source_label", Text.quoted sourceLabel),
        ("destination_label", Text.quoted destinationLabel),
        ("relationship", Text.quoted relationship)]
  | deleteEdge sourceLabel destinationLabel relationship filter =>
      [("source_label", Text.quoted sourceLabel),
        ("destination_label", Text.quoted destinationLabel),
        ("relationship", Text.quoted relationship),
        ("filter", "[" ++ ", ".intercalate (filter.map Text.quoted) ++ "]")]
  | removeEdges policy sourceLabel destinationLabel relationship =>
      [("policy", policy.title), ("source_label", optionalText sourceLabel),
        ("destination_label", optionalText destinationLabel),
        ("relationship", Text.quoted relationship)]
  | matchEdgesFromSource sourceLabel relationship =>
      [("source_label", Text.quoted sourceLabel), ("relationship", Text.quoted relationship)]

/-- The form of an operation in messages: its kind and its fields. -/
def described (op : Operation) : String :=
  let fields := op.describedFields.map fun (name, value) => name ++ ": " ++ value
  op.kind ++ " \x7b " ++ ", ".intercalate fields ++ " \x7d"

end Operation

/-- Why a statement cannot be carried out. -/
inductive StatementError
  | missing (param : String)
  | notText (param : String)
  | notMap (param : String)
  | notRead (op : Operation)
deriving DecidableEq, Repr

def StatementError.message : StatementError → String
  | missing param => "missing parameter $" ++ param
  | notText param => "parameter $" ++ param ++ " must be a string"
  | notMap param => "parameter $" ++ param ++ " must be a map"
  | notRead op => op.described ++ " is not a read statement"

namespace Statement

/-- The statement of an operation with the given parameters. -/
def ofOperation (op : Operation) (params : PropertyMap) : Statement := ⟨op, op.text, params⟩

def param (s : Statement) (name : String) : Except StatementError PropertyValue :=
  match SortedMap.get? s.params name with
  | some v => .ok v
  | none => .error (.missing name)

def textParam (s : Statement) (name : String) : Except StatementError String :=
  match s.param name with
  | .ok (.str text) => .ok text
  | .ok _ => .error (.notText name)
  | .error e => .error e

def mapParam (s : Statement) (name : String) : Except StatementError PropertyMap :=
  match s.param name with
  | .ok (.map m) => .ok m
  | .ok _ => .error (.notMap name)
  | .error e => .error e

end Statement

end RecordGraph
