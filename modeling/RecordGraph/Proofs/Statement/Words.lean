import RecordGraph.Proofs.Cypher.Words
import RecordGraph.Statement

/-!
# What the text of an operation says

The words of a text tell the operation, except for the policy of a removal, and except that
a deletion without a filter reads like a removal between two nodes.
-/

namespace RecordGraph

namespace Operation

/-- An operation without what its text does not say. -/
def said : Operation → Operation
  | removeEdges _ sourceLabel destinationLabel relationship =>
      removeEdges .none sourceLabel destinationLabel relationship
  | deleteEdge sourceLabel destinationLabel relationship [] =>
      removeEdges .none (some sourceLabel) (some destinationLabel) relationship
  | op => op

/-! ## Reading the words -/

/-- The fields of a filter, each with its parameter after it. -/
def fieldsOfWords : List String → List String
  | field :: _ :: rest => field :: fieldsOfWords rest
  | _ => []

/-- The removal or deletion whose words from the label of the edges on are given. -/
def removalOfWords (source : Option String) (relationship : String) (words : List String) :
    Operation :=
  match words.drop (words.length - 6) with
  | ["destination", destination, _, _, "DELETE", "relation"] =>
      match source, fieldsOfWords (words.take (words.length - 6)) with
      | some source, field :: rest => deleteEdge source destination relationship (field :: rest)
      | source, _ => removeEdges .none source (some destination) relationship
  | _ => removeEdges .none source none relationship

/-- The operation that the words of a text say. -/
def ofWords? : List String → Option Operation
  | "MERGE" :: "node" :: label :: _ :: _ :: "SET" :: _ => some (upsertNode label)
  | "MERGE" :: "node" :: label :: _ => some (mergeNode label)
  | "MATCH" :: "node" :: label :: _ :: _ :: "DETACH" :: _ => some (deleteNode label)
  | "MATCH" :: "node" :: label :: _ => some (matchNodes label)
  | "MATCH" :: "source" :: source :: _ :: _ :: "destination" :: destination :: _ :: _ ::
      "MERGE" :: _ :: _ :: relationship :: _ =>
      some (upsertEdge source destination relationship)
  | "MATCH" :: "source" :: source :: _ :: _ :: "r" :: relationship :: "destination" ::
      destination :: _ => some (matchEdges source destination relationship)
  | "MATCH" :: "source" :: source :: _ :: _ :: "r" :: relationship :: _ =>
      some (matchEdgesFromSource source relationship)
  | "MATCH" :: "source" :: source :: _ :: _ :: "relation" :: relationship :: rest =>
      some (removalOfWords (some source) relationship rest)
  | "MATCH" :: "relation" :: relationship :: rest =>
      some (removalOfWords none relationship rest)
  | _ => none

theorem fieldsOfWords_flatMap (filter : List String) :
    fieldsOfWords (filter.flatMap fun field => [field, Param.filter field]) = filter := by
  induction filter with
  | nil => rfl
  | cons field rest ih => exact congrArg (field :: ·) ih

/-! ## Deletions -/

/-- The template of a deletion before its filter. -/
def deletionStart (source relationship : String) : Cypher.Template :=
  .fixed "MATCH " :: Cypher.node "source" source Param.source
    ++ [.fixed "-[relation:", .name relationship]

/-- The template of a deletion after its filter. -/
def deletionEnd (destination : String) : Cypher.Template :=
  .fixed "]->" :: Cypher.node "destination" destination Param.destination
    ++ [.fixed " DELETE relation"]

theorem template_deleteEdge (source destination relationship : String) (filter : List String) :
    (deleteEdge source destination relationship filter).template =
      deletionStart source relationship
        ++ (Cypher.criteria Param.filter filter ++ deletionEnd destination) := by
  simp [template, Cypher.edge, deletionStart, deletionEnd]

section Pieces

variable {F : Cypher.Fragment → List String}

/-- Each field of a filter gives what its name and its parameter give. -/
theorem flatMap_equalities (colon : F (.fixed ": ") = []) (comma : F (.fixed ", ") = [])
    (filter : List String) :
    (Cypher.equalities Param.filter filter).flatMap F =
      filter.flatMap fun field => F (.name field) ++ F (.param (Param.filter field)) := by
  induction filter with
  | nil => rfl
  | cons field rest ih =>
      cases rest with
      | nil => simp [Cypher.equalities, colon]
      | cons next more =>
          rw [List.flatMap_cons, ← ih]
          simp [Cypher.equalities, colon, comma]

theorem flatMap_deleteEdge (colon : F (.fixed ": ") = []) (comma : F (.fixed ", ") = [])
    (opening : F (.fixed " \x7b") = []) (closing : F (.fixed "\x7d") = [])
    (source destination relationship : String) (filter : List String) :
    (deleteEdge source destination relationship filter).template.flatMap F =
      (deletionStart source relationship).flatMap F
        ++ ((filter.flatMap fun field => F (.name field) ++ F (.param (Param.filter field)))
          ++ (deletionEnd destination).flatMap F) := by
  have condition : (Cypher.criteria Param.filter filter).flatMap F =
      filter.flatMap fun field => F (.name field) ++ F (.param (Param.filter field)) := by
    cases filter with
    | nil => rfl
    | cons field rest =>
        change (.fixed " \x7b" ::
          (Cypher.equalities Param.filter (field :: rest) ++ [.fixed "\x7d"])).flatMap F = _
        rw [List.flatMap_cons, List.flatMap_append, opening, flatMap_equalities colon comma,
          List.flatMap_singleton, closing, List.nil_append, List.append_nil]
  rw [template_deleteEdge, List.flatMap_append, List.flatMap_append, condition]

end Pieces

theorem words_deleteEdge (source destination relationship : String) (filter : List String) :
    (deleteEdge source destination relationship filter).template.words =
      ["MATCH", "source", source, "urn", "source_urn", "relation", relationship]
        ++ ((filter.flatMap fun field => [field, Param.filter field])
          ++ ["destination", destination, "urn", "destination_urn", "DELETE", "relation"]) :=
  flatMap_deleteEdge rfl rfl rfl rfl source destination relationship filter

theorem names_deleteEdge (source destination relationship : String) (filter : List String) :
    (deleteEdge source destination relationship filter).template.names =
      source :: relationship :: (filter ++ [destination]) := by
  rw [Cypher.Template.names_eq_flatMap, flatMap_deleteEdge rfl rfl rfl rfl]
  change source :: relationship :: (filter.flatMap (fun field => [field]) ++ [destination]) = _
  rw [List.flatMap_singleton']

theorem params_deleteEdge (source destination relationship : String) (filter : List String) :
    (deleteEdge source destination relationship filter).template.params =
      Param.source :: (filter.map Param.filter ++ [Param.destination]) := by
  rw [Cypher.Template.params_eq_flatMap, flatMap_deleteEdge rfl rfl rfl rfl]
  change Param.source ::
    (filter.flatMap (fun field => [Param.filter field]) ++ [Param.destination]) = _
  rw [List.map_eq_flatMap]

theorem removalOfWords_filter (source : String) (destination relationship : String)
    (filter : List String) :
    removalOfWords (some source) relationship
        ((filter.flatMap fun field => [field, Param.filter field])
          ++ ["destination", destination, "urn", "destination_urn", "DELETE", "relation"]) =
      (deleteEdge source destination relationship filter).said := by
  have length : ((filter.flatMap fun field => [field, Param.filter field])
      ++ ["destination", destination, "urn", "destination_urn", "DELETE", "relation"]).length - 6 =
      (filter.flatMap fun field => [field, Param.filter field]).length := by
    rw [List.length_append]
    rfl
  unfold removalOfWords
  rw [length, List.drop_left, List.take_left]
  simp only [fieldsOfWords_flatMap]
  cases filter <;> rfl

/-- The words of an operation say what it is. -/
theorem ofWords?_words (op : Operation) : ofWords? op.template.words = some op.said := by
  cases op with
  | upsertNode label => rfl
  | deleteNode label => rfl
  | mergeNode label => rfl
  | upsertEdge source destination relationship => rfl
  | deleteEdge source destination relationship filter =>
      rw [words_deleteEdge, ← removalOfWords_filter]
      rfl
  | removeEdges policy source destination relationship =>
      cases source <;> cases destination <;> rfl
  | matchNodes label => rfl
  | matchEdges source destination relationship => rfl
  | matchEdgesFromSource source relationship => rfl

/-! ## The text of an operation -/

theorem isSpaced_equalities (filter : List String) :
    Cypher.Template.isSpaced (Cypher.equalities Param.filter filter) = true := by
  induction filter with
  | nil => rfl
  | cons field rest ih =>
      cases rest with
      | nil => rfl
      | cons next more => exact ih

theorem isSpaced_criteria (filter : List String) :
    Cypher.Template.isSpaced (Cypher.criteria Param.filter filter) = true := by
  cases filter with
  | nil => rfl
  | cons field rest =>
      have all : Cypher.Template.isSpaced
          (Cypher.equalities Param.filter (field :: rest) ++ [.fixed "\x7d"]) = true :=
        Cypher.Template.isSpaced_append (isSpaced_equalities _) rfl (.inr rfl)
      exact all

theorem isSpaced_template (op : Operation) : op.template.isSpaced = true := by
  cases op with
  | deleteEdge source destination relationship filter =>
      rw [template_deleteEdge]
      refine Cypher.Template.isSpaced_append rfl ?_ ?_
      · exact Cypher.Template.isSpaced_append (isSpaced_criteria filter) rfl (.inr rfl)
      · right
        cases filter <;> rfl
  | removeEdges policy source destination relationship =>
      cases source <;> cases destination <;> rfl
  | _ => rfl

theorem isValid_filter {field : String} (valid : Identifier.isValid field = true) :
    Identifier.isValid (Param.filter field) = true := by
  have parts := (Cypher.parts_of_isValid valid).2
  have chars : (Param.filter field).toList =
      'f' :: (['i', 'l', 't', 'e', 'r', '_'] ++ field.toList) := by
    simp [Param.filter, String.toList_append]
  unfold Identifier.isValid
  rw [chars]
  dsimp only
  rw [List.all_append, Bool.and_eq_true, Bool.and_eq_true]
  exact ⟨rfl, rfl, List.all_eq_true.mpr parts⟩

/-- With identifiers as names the parameters are identifiers too. -/
theorem isClean_template {op : Operation}
    (valid : ∀ name ∈ op.template.names, Identifier.isValid name = true) :
    op.template.isClean = true := by
  refine Cypher.Template.isClean_iff.mpr ⟨valid, ?_⟩
  intro param member
  cases op with
  | deleteEdge source destination relationship filter =>
      rw [names_deleteEdge] at valid
      rw [params_deleteEdge] at member
      rcases List.mem_cons.mp member with rfl | member
      · decide
      rcases List.mem_append.mp member with inFilter | last
      · obtain ⟨field, inside, rfl⟩ := List.mem_map.mp inFilter
        refine isValid_filter (valid field ?_)
        simp [inside]
      · rw [List.mem_singleton.mp last]
        decide
  | removeEdges policy source destination relationship =>
      cases source <;> cases destination <;> exact List.all_eq_true.mp rfl param member
  | _ => exact List.all_eq_true.mp rfl param member

/-- Operations with the same text are the same as far as a text can say. -/
theorem said_eq_of_text {op op' : Operation}
    (valid : ∀ name ∈ op.template.names, Identifier.isValid name = true)
    (valid' : ∀ name ∈ op'.template.names, Identifier.isValid name = true)
    (same : op.text = op'.text) : op.said = op'.said := by
  have read (op : Operation)
      (valid : ∀ name ∈ op.template.names, Identifier.isValid name = true) :
      ofWords? (Cypher.words op.text.toList) = some op.said := by
    unfold text
    rw [Cypher.Template.words_text (isSpaced_template op) (isClean_template valid)]
    exact ofWords?_words op
  have here := read op valid
  rw [same, read op' valid'] at here
  exact (Option.some.inj here).symm

/-! ## What a text does not say -/

theorem isRead_said (op : Operation) : op.said.isRead = op.isRead := by
  cases op with
  | deleteEdge source destination relationship filter => cases filter <;> rfl
  | _ => rfl

theorem said_of_isRead {op : Operation} (reads : op.isRead = true) : op.said = op := by
  cases op with
  | deleteEdge source destination relationship filter => cases reads
  | removeEdges policy source destination relationship => cases reads
  | _ => rfl

end Operation

end RecordGraph
