import Mathlib.Data.List.Forall2
import RecordGraph.Proofs.Statement.Text

/-!
# What data cannot reach

The text of a statement for records consists of phrases that are laid down, of identifiers
and of places for parameters. It depends on the entity types, the labels, the policy and the
names of the fields that are filtered by. No namespace, key, property name or value reaches it.
-/

namespace RecordGraph

namespace Identifier

/-- A letter or an underscore. -/
def IsLetter (c : Char) : Prop := ('A' ≤ c ∧ c ≤ 'Z') ∨ ('a' ≤ c ∧ c ≤ 'z') ∨ c = '_'

def IsDigit (c : Char) : Prop := '0' ≤ c ∧ c ≤ '9'

/-- A letter with letters and digits after it. -/
def Matches (s : String) : Prop :=
  ∃ first rest, s.toList = first :: rest ∧ IsLetter first ∧ ∀ c ∈ rest, IsLetter c ∨ IsDigit c

theorem isStart_iff {c : Char} : isStart c = true ↔ IsLetter c := by
  change ((decide ('A' ≤ c ∧ c ≤ 'Z') || (decide ('a' ≤ c) && decide (c ≤ 'z')))
    || decide (c = '_')) = true ↔ _
  simp only [IsLetter, Bool.or_eq_true, Bool.and_eq_true, decide_eq_true_eq, or_assoc]

theorem isPart_iff {c : Char} : isPart c = true ↔ IsLetter c ∨ IsDigit c := by
  change ((c.isAlpha || (decide ('0' ≤ c) && decide (c ≤ '9'))) || decide (c = '_')) = true ↔ _
  rw [Bool.or_right_comm, Bool.or_eq_true]
  refine or_congr isStart_iff ?_
  simp only [IsDigit, Bool.and_eq_true, decide_eq_true_eq]

theorem isValid_iff {s : String} : isValid s = true ↔ Matches s := by
  unfold isValid Matches
  cases s.toList with
  | nil => simp
  | cons first rest =>
      rw [Bool.and_eq_true, isStart_iff, List.all_eq_true]
      constructor
      · rintro ⟨letter, parts⟩
        exact ⟨first, rest, rfl, letter, fun c member => isPart_iff.mp (parts c member)⟩
      · rintro ⟨_, _, same, letter, parts⟩
        cases same
        exact ⟨letter, fun c member => isPart_iff.mpr (parts c member)⟩

end Identifier

/-! ## The pieces of a text -/

namespace Cypher

/-- The phrases that texts are put together from. -/
def phrases : List String :=
  ["MATCH ", "MERGE ", "(node:", "(source:", "(destination:", " \x7burn: ", "\x7d)", "()", ",",
    "-[r:", "-[relation:", " \x7b", ": ", ", ", "\x7d", "]->", " MERGE (source)",
    "(destination) SET r += ", " SET node += ", " RETURN node", " DETACH DELETE node",
    " DELETE relation", " RETURN properties(node) AS props", " RETURN properties(r) AS props",
    "() RETURN properties(r) AS props"]

/-- A piece of a text that holds no data. -/
inductive Fragment.Inert : Fragment → Prop
  | phrase {s : String} (laid : s ∈ phrases) : Inert (.fixed s)
  | name {s : String} (identifier : Identifier.Matches s) : Inert (.name s)
  | param {s : String}
      (known : s ∈ [Param.urn, Param.source, Param.destination, Param.properties]) :
      Inert (.param s)
  | filter {field : String} (identifier : Identifier.Matches field) :
      Inert (.param (Param.filter field))

/-- Whether all that is fixed in a template is a phrase. -/
def Template.isPhrased (t : Template) : Bool :=
  t.all fun f =>
    match f with
    | .fixed s => phrases.contains s
    | _ => true

theorem Template.isPhrased_append {t u : Template} (left : t.isPhrased = true)
    (right : u.isPhrased = true) : isPhrased (t ++ u) = true := by
  rw [isPhrased, List.all_append, Bool.and_eq_true]
  exact ⟨left, right⟩

end Cypher

namespace Operation

theorem isPhrased_equalities (filter : List String) :
    Cypher.Template.isPhrased (Cypher.equalities Param.filter filter) = true := by
  induction filter with
  | nil => rfl
  | cons field rest ih =>
      cases rest with
      | nil => rfl
      | cons next more => exact ih

theorem isPhrased_criteria (filter : List String) :
    Cypher.Template.isPhrased (Cypher.criteria Param.filter filter) = true := by
  cases filter with
  | nil => rfl
  | cons field rest =>
      exact Cypher.Template.isPhrased_append (isPhrased_equalities (field :: rest)) rfl

theorem isPhrased_template (op : Operation) : op.template.isPhrased = true := by
  cases op with
  | deleteEdge source destination relationship filter =>
      rw [template_deleteEdge]
      exact Cypher.Template.isPhrased_append rfl
        (Cypher.Template.isPhrased_append (isPhrased_criteria filter) rfl)
  | removeEdges policy source destination relationship =>
      cases source <;> cases destination <;> rfl
  | _ => rfl

/-- A parameter is one of those that every text may have, or belongs to a filter. -/
theorem param_cases {op : Operation} {s : String} (member : s ∈ op.template.params) :
    s ∈ [Param.urn, Param.source, Param.destination, Param.properties] ∨
      ∃ field ∈ op.template.names, s = Param.filter field := by
  cases op with
  | deleteEdge source destination relationship filter =>
      rw [params_deleteEdge] at member
      rw [names_deleteEdge]
      rcases List.mem_cons.mp member with rfl | member
      · simp
      rcases List.mem_append.mp member with inFilter | last
      · obtain ⟨field, inside, rfl⟩ := List.mem_map.mp inFilter
        exact .inr ⟨field, by simp [inside], rfl⟩
      · simp [List.mem_singleton.mp last]
  | removeEdges policy source destination relationship =>
      left
      cases source <;> cases destination <;>
        exact List.contains_iff_mem.mp (List.all_eq_true.mp rfl s member)
  | _ => exact .inl (List.contains_iff_mem.mp (List.all_eq_true.mp rfl s member))

/-- With identifiers as names a text holds no data. -/
theorem inert_template {op : Operation}
    (valid : ∀ name ∈ op.template.names, Identifier.isValid name = true) :
    ∀ f ∈ op.template, f.Inert := by
  intro f member
  cases f with
  | fixed s =>
      have phrased := List.all_eq_true.mp (isPhrased_template op) _ member
      exact .phrase (List.contains_iff_mem.mp phrased)
  | name s =>
      have named : s ∈ op.template.names := List.mem_filterMap.mpr ⟨_, member, rfl⟩
      exact .name (Identifier.isValid_iff.mp (valid s named))
  | param s =>
      have bound : s ∈ op.template.params := List.mem_filterMap.mpr ⟨_, member, rfl⟩
      rcases param_cases bound with known | ⟨field, named, rfl⟩
      · exact .param known
      · exact .filter (Identifier.isValid_iff.mp (valid field named))

end Operation

namespace Statement

/-! ## What a request asks for -/

/-- The operation that writes the edge of a relationship. -/
def upsertion (registry : Registry) (r : Relationship) : Operation :=
  .upsertEdge (registry.labelFor r.source) (registry.labelFor r.destination) r.label

/-- The operations that write a relationship, with the nodes at its ends. -/
def linking (registry : Registry) (r : Relationship) : List Operation :=
  [.mergeNode (registry.labelFor r.source), .mergeNode (registry.labelFor r.destination),
    upsertion registry r]

/-- The operation that clears the edges which a batch replaces, if it replaces any. -/
def clearing (registry : Registry) (policy : RemovalPolicy) :
    List Relationship → List Operation
  | [] => []
  | first :: _ =>
      if policy = .none then []
      else [.removeEdges policy
        (if policy.sharesSource then some (registry.labelFor first.source) else none)
        (if policy.sharesDestination then some (registry.labelFor first.destination) else none)
        first.label]

section Operations

variable {registry : Registry}

theorem operation_upsertNode {e : Entity} {s : Statement} (built : upsertNode registry e = .ok s) :
    s.operation = .upsertNode (registry.labelFor e.urn) := by
  obtain ⟨properties, -, done⟩ := bind_eq_ok_iff.mp built
  cases done
  rfl

theorem operation_upsertEdge {r : Relationship} {s : Statement}
    (built : upsertEdge registry r = .ok s) : s.operation = upsertion registry r := by
  obtain ⟨label, checked, more⟩ := bind_eq_ok_iff.mp built
  obtain ⟨-, rfl⟩ := eq_of_checkedLabel checked
  obtain ⟨properties, -, done⟩ := bind_eq_ok_iff.mp more
  cases done
  rfl

theorem operations_removal {policy : RemovalPolicy} {rs : List Relationship}
    {cleared : Option Statement} (built : removal registry policy rs = .ok cleared) :
    cleared.toList.map Statement.operation = clearing registry policy rs := by
  cases rs with
  | nil => cases policy <;> cases built <;> rfl
  | cons first rest =>
      by_cases clears : policy = .none
      · subst clears
        cases built
        rfl
      · obtain ⟨-, -, -, rfl⟩ := removal_cases clears built
        rw [clearing, if_neg clears]
        rfl

theorem operations_upsertEdges {rs : List Relationship} {ss : List Statement}
    (built : upsertEdges registry rs = .ok ss) :
    ss.map Statement.operation = rs.flatMap (linking registry) := by
  refine (recordByRecord_upsertEdges registry).induct
    (P := fun rs ss => ss.map Statement.operation = rs.flatMap (linking registry)) rfl ?_ built
  intro r rest edge others builtEdge same
  rw [List.flatMap_cons, ← same, List.map_cons, List.map_cons, List.map_cons,
    operation_upsertEdge builtEdge]
  rfl

theorem operations_addRelationships {policy : RemovalPolicy} {rs : List Relationship}
    {ss : List Statement} (built : addRelationships registry policy rs = .ok ss) :
    ss.map Statement.operation =
      clearing registry policy rs ++ rs.flatMap (linking registry) := by
  obtain ⟨cleared, builtCleared, more⟩ := bind_eq_ok_iff.mp built
  obtain ⟨written, builtWritten, done⟩ := bind_eq_ok_iff.mp more
  cases done
  rw [List.map_append, operations_removal builtCleared, operations_upsertEdges builtWritten]

end Operations

/-! ## What a request depends on -/

/-- Whether a relationship is filtered by a field when its edges are deleted. -/
def FiltersBy (r : Relationship) (field : String) : Prop :=
  field ∈ r.filterFields ∧ (SortedMap.get? (carried r.properties) field).isSome = true

/-- Relationships that may differ in the keys of their ends and in their properties. -/
structure Agree (r r' : Relationship) : Prop where
  source : r.source.entityType = r'.source.entityType
  destination : r.destination.entityType = r'.destination.entityType
  label : r.label = r'.label
  filter : ∀ field, FiltersBy r field ↔ FiltersBy r' field

section Congruence

variable {registry : Registry} {r r' : Relationship} {rs rs' : List Relationship}

theorem labelFor_congr {u u' : Urn} (type : u.entityType = u'.entityType) :
    registry.labelFor u = registry.labelFor u' := by
  rw [Registry.labelFor, Registry.labelFor, type]

theorem upsertion_congr (agree : Agree r r') : upsertion registry r = upsertion registry r' := by
  rw [upsertion, upsertion, labelFor_congr agree.source, labelFor_congr agree.destination,
    agree.label]

theorem filteredBy_congr (agree : Agree r r') : filteredBy r = filteredBy r' := by
  -- the fields are listed in order, so the set of them determines the list
  refine SortedMap.eq_of_increasing (increasing_filteredBy r) (increasing_filteredBy r') ?_
  intro field
  rw [mem_filteredBy, mem_filteredBy]
  exact agree.filter field

theorem linking_congr (agree : List.Forall₂ Agree rs rs') :
    rs.flatMap (linking registry) = rs'.flatMap (linking registry) := by
  induction agree with
  | nil => rfl
  | cons first later ih =>
      rw [List.flatMap_cons, List.flatMap_cons, ih, linking, linking,
        labelFor_congr first.source, labelFor_congr first.destination, upsertion_congr first]

theorem clearing_congr (policy : RemovalPolicy) (agree : List.Forall₂ Agree rs rs') :
    clearing registry policy rs = clearing registry policy rs' := by
  cases agree with
  | nil => rfl
  | cons first later =>
      rw [clearing, clearing, labelFor_congr first.source, labelFor_congr first.destination,
        first.label]

end Congruence

/-! ## Requests -/

/-- What statements are built for. -/
inductive Request
  | upsertNode (e : Entity)
  | deleteNode (u : Urn)
  | mergeNode (u : Urn)
  | upsertEdge (r : Relationship)
  | deleteEdge (r : Relationship)
  | removal (policy : RemovalPolicy) (rs : List Relationship)
  | addRelationships (policy : RemovalPolicy) (rs : List Relationship)
  | matchNodes (u : Urn)
  | matchEdges (r : Relationship)
  | matchEdgesFromSource (source : Urn) (label : String)

namespace Request

/-- Requests that may differ in the keys of urns and in properties. -/
inductive Agrees : Request → Request → Prop
  | upsertNode {e e' : Entity} (type : e.urn.entityType = e'.urn.entityType) :
      Agrees (upsertNode e) (upsertNode e')
  | deleteNode {u u' : Urn} (type : u.entityType = u'.entityType) :
      Agrees (deleteNode u) (deleteNode u')
  | mergeNode {u u' : Urn} (type : u.entityType = u'.entityType) :
      Agrees (mergeNode u) (mergeNode u')
  | upsertEdge {r r' : Relationship} (agree : Agree r r') : Agrees (upsertEdge r) (upsertEdge r')
  | deleteEdge {r r' : Relationship} (agree : Agree r r') : Agrees (deleteEdge r) (deleteEdge r')
  | removal (policy : RemovalPolicy) {rs rs' : List Relationship}
      (agree : List.Forall₂ Agree rs rs') : Agrees (removal policy rs) (removal policy rs')
  | addRelationships (policy : RemovalPolicy) {rs rs' : List Relationship}
      (agree : List.Forall₂ Agree rs rs') :
      Agrees (addRelationships policy rs) (addRelationships policy rs')
  | matchNodes {u u' : Urn} (type : u.entityType = u'.entityType) :
      Agrees (matchNodes u) (matchNodes u')
  | matchEdges {r r' : Relationship} (agree : Agree r r') : Agrees (matchEdges r) (matchEdges r')
  | matchEdgesFromSource {u u' : Urn} (label : String) (type : u.entityType = u'.entityType) :
      Agrees (matchEdgesFromSource u label) (matchEdgesFromSource u' label)

variable (registry : Registry)

/-- The statements for a request. -/
def build : Request → Except GraphError (List Statement)
  | upsertNode e => (Statement.upsertNode registry e).map fun s => [s]
  | deleteNode u => .ok [Statement.deleteNode registry u]
  | mergeNode u => .ok [Statement.mergeNode registry u]
  | upsertEdge r => (Statement.upsertEdge registry r).map fun s => [s]
  | deleteEdge r => (Statement.deleteEdge registry r).map fun s => [s]
  | removal policy rs => (Statement.removal registry policy rs).map Option.toList
  | addRelationships policy rs => Statement.addRelationships registry policy rs
  | matchNodes u => .ok [Statement.matchNodes registry u]
  | matchEdges r => (Statement.matchEdges registry r).map fun s => [s]
  | matchEdgesFromSource source label =>
      (Statement.matchEdgesFromSource registry source label).map fun s => [s]

/-- The operations of the statements for a request. -/
def operations : Request → List Operation
  | upsertNode e => [.upsertNode (registry.labelFor e.urn)]
  | deleteNode u => [.deleteNode (registry.labelFor u)]
  | mergeNode u => [.mergeNode (registry.labelFor u)]
  | upsertEdge r => [upsertion registry r]
  | deleteEdge r =>
      [.deleteEdge (registry.labelFor r.source) (registry.labelFor r.destination) r.label
        (filteredBy r)]
  | removal policy rs => clearing registry policy rs
  | addRelationships policy rs => clearing registry policy rs ++ rs.flatMap (linking registry)
  | matchNodes u => [.matchNodes (registry.labelFor u)]
  | matchEdges r =>
      [.matchEdges (registry.labelFor r.source) (registry.labelFor r.destination) r.label]
  | matchEdgesFromSource source label => [.matchEdgesFromSource (registry.labelFor source) label]

variable {registry : Registry}

/-- The statements for a request are built for records, and have the operations of the request. -/
theorem build_cases {q : Request} {ss : List Statement} (built : q.build registry = .ok ss) :
    (∀ s ∈ ss, s.Built) ∧ ss.map Statement.operation = q.operations registry := by
  -- most requests have one statement
  have one {s : Statement} {op : Operation} (here : s.Built) (same : s.operation = op) :
      (∀ t ∈ [s], t.Built) ∧ [s].map Statement.operation = [op] :=
    ⟨List.forall_mem_singleton.mpr here, congrArg (fun op => [op]) same⟩
  cases q with
  | upsertNode e =>
      obtain ⟨s, node, rfl⟩ := map_eq_ok_iff.mp built
      exact one (.upsertNode node) (operation_upsertNode node)
  | deleteNode u =>
      cases built
      exact one (.deleteNode registry u) rfl
  | mergeNode u =>
      cases built
      exact one (.mergeNode registry u) rfl
  | upsertEdge r =>
      obtain ⟨s, edge, rfl⟩ := map_eq_ok_iff.mp built
      exact one (.upsertEdge edge) (operation_upsertEdge edge)
  | deleteEdge r =>
      obtain ⟨s, edge, rfl⟩ := map_eq_ok_iff.mp built
      obtain ⟨-, -, same⟩ := deleteEdge_cases edge
      exact one (.deleteEdge edge) (congrArg Statement.operation same)
  | removal policy rs =>
      obtain ⟨cleared, removes, rfl⟩ := map_eq_ok_iff.mp built
      refine ⟨?_, operations_removal removes⟩
      intro s member
      rw [Option.mem_toList.mp member] at removes
      exact .removal removes
  | addRelationships policy rs =>
      exact ⟨fun s member => .addRelationships built member, operations_addRelationships built⟩
  | matchNodes u =>
      cases built
      exact one (.matchNodes registry u) rfl
  | matchEdges r =>
      obtain ⟨s, edges, rfl⟩ := map_eq_ok_iff.mp built
      obtain ⟨label, checked, done⟩ := bind_eq_ok_iff.mp edges
      obtain ⟨-, rfl⟩ := eq_of_checkedLabel checked
      cases done
      exact one (.matchEdges edges) rfl
  | matchEdgesFromSource source label =>
      obtain ⟨s, edges, rfl⟩ := map_eq_ok_iff.mp built
      obtain ⟨_, checked, done⟩ := bind_eq_ok_iff.mp edges
      obtain ⟨-, rfl⟩ := eq_of_checkedLabel checked
      cases done
      exact one (.matchEdgesFromSource edges) rfl

/-- Requests that agree have the same operations. -/
theorem operations_congr {q q' : Request} (agrees : q.Agrees q') :
    q.operations registry = q'.operations registry := by
  cases agrees with
  | upsertNode type => rw [operations, operations, labelFor_congr type]
  | deleteNode type => rw [operations, operations, labelFor_congr type]
  | mergeNode type => rw [operations, operations, labelFor_congr type]
  | upsertEdge agree => rw [operations, operations, upsertion_congr agree]
  | deleteEdge agree =>
      rw [operations, operations, labelFor_congr agree.source, labelFor_congr agree.destination,
        agree.label, filteredBy_congr agree]
  | removal policy agree => exact clearing_congr policy agree
  | addRelationships policy agree =>
      rw [operations, operations, clearing_congr policy agree, linking_congr agree]
  | matchNodes type => rw [operations, operations, labelFor_congr type]
  | matchEdges agree =>
      rw [operations, operations, labelFor_congr agree.source, labelFor_congr agree.destination,
        agree.label]
  | matchEdgesFromSource label type => rw [operations, operations, labelFor_congr type]

/-- No data reaches the text of a statement. Every text that is built consists of phrases that
are laid down, of identifiers and of places for parameters. Requests that agree are given the
same texts. -/
theorem texts_inert (registry : Registry) (q : Request) (ss : List Statement)
    (built : q.build registry = .ok ss) :
    (∀ s ∈ ss, s.text = s.operation.template.text ∧ ∀ f ∈ s.operation.template, f.Inert) ∧
    ∀ (q' : Request) (ss' : List Statement), q.Agrees q' → q'.build registry = .ok ss' →
      ss'.map Statement.text = ss.map Statement.text := by
  -- texts are those of the operations
  have texts {q : Request} {ss : List Statement} (built : q.build registry = .ok ss) :
      ss.map Statement.text = (q.operations registry).map Operation.text := by
    obtain ⟨each, same⟩ := build_cases built
    rw [← same, List.map_map]
    exact List.map_congr_left fun s member => (each s member).proper.text
  refine ⟨?_, ?_⟩
  · intro s member
    have proper := ((build_cases built).1 s member).proper
    exact ⟨proper.text, Operation.inert_template proper.names⟩
  · intro q' ss' agrees built'
    rw [texts built', texts built, operations_congr agrees]

/-- A person whose urn reads like the end of a text. -/
def eve : Urn :=
  { Urn.person "\x7d) DETACH DELETE node //" (by decide) with
    nameSpace := "b\x7d"
    nameSpace_ne := by decide
    nameSpace_free := by decide }

def plain : Relationship := ⟨"KNOWS", .ann, .ann, .ok ⟨[("role", .str "poet")], rfl⟩, ["role"]⟩

/-- The same of Eve, with a value and a name that read like the end of a text. -/
def hostile : Relationship :=
  ⟨"KNOWS", eve, eve, .ok ⟨[("role", .str "\x7d]->() DELETE r //"), ("x\x7d", .int 1)], rfl⟩,
    ["role"]⟩

/-- A deletion with hostile keys, names and values has the text of a plain one. -/
theorem texts_inert_hostile :
    Agree plain hostile ∧
      ∃ ss ss', (deleteEdge plain).build Registry.empty = .ok ss ∧
        (deleteEdge hostile).build Registry.empty = .ok ss' ∧
        ss'.map Statement.text = ss.map Statement.text ∧
        ∀ s ∈ ss', ∀ f ∈ s.operation.template, f.Inert := by
  have agree : Agree plain hostile := by
    refine ⟨rfl, rfl, rfl, ?_⟩
    intro field
    refine and_congr_right ?_
    intro listed
    obtain rfl := List.mem_singleton.mp listed
    exact Iff.rfl
  obtain ⟨ss, ss', built, built'⟩ : ∃ ss ss',
      (deleteEdge plain).build Registry.empty = .ok ss ∧
        (deleteEdge hostile).build Registry.empty = .ok ss' := ⟨_, _, rfl, rfl⟩
  obtain ⟨-, same⟩ := texts_inert Registry.empty _ ss built
  obtain ⟨inert, -⟩ := texts_inert Registry.empty _ ss' built'
  exact ⟨agree, ss, ss', built, built', same _ ss' (.deleteEdge agree) built',
    fun s member => (inert s member).2⟩

end Request

end Statement

end RecordGraph
