import RecordGraph.Proofs.Settings.Layers
import RecordGraph.Proofs.Success
import RecordGraph.Settings.Load

/-!
# Credentials from the environment

The address of the server, the user, the password and the database are texts, and each has a
variable. What the variable says wins over the file, and no other setting changes, unless those of
the server are listed in an array. But the text of a variable is read as a truth value or a number
where that is possible, and written out again where a text is wanted. So a credential comes out as
it was given if and only if it does not look like a truth value or a number, or looks the way
these are written: the password `0123` comes out as `123`. The same text in the file stays as it is.
-/

namespace RecordGraph.Settings

open Node

/-! ## Texts of values -/

/-- What is written where a text is wanted and the value is none. -/
def Scalar.text : Scalar → String
  | nil => ""
  | bool b => if b then "true" else "false"
  | int i => Numeral.text i.toInt
  | float x => x.plain
  | str s => s

/-- The text of a variable is how its value is written. -/
def Verbatim (s : String) : Prop :=
  match variableValue s with
  | .bool b => s = if b then "true" else "false"
  | .int i => s = Numeral.text i.toInt
  | .float x => s = x.plain
  | .nil | .str _ => True

/-- A variable has a value, and one that is a text is the text of the variable. -/
theorem variableValue_cases (s : String) :
    (∃ b, variableValue s = .bool b) ∨ (∃ i, variableValue s = .int i) ∨
      (∃ x, variableValue s = .float x) ∨ variableValue s = .str s := by
  simp only [variableValue]
  split
  · exact .inl ⟨_, rfl⟩
  · split
    · exact .inl ⟨_, rfl⟩
    · split
      · exact .inr (.inl ⟨_, rfl⟩)
      · split
        · exact .inr (.inr (.inl ⟨_, rfl⟩))
        · exact .inr (.inr (.inr rfl))

theorem variableValue_ne_nil (s : String) : variableValue s ≠ .nil := by
  rcases variableValue_cases s with ⟨b, value⟩ | ⟨i, value⟩ | ⟨x, value⟩ | value <;>
    rw [value] <;> exact Scalar.noConfusion

theorem text_variableValue_eq_iff (s : String) : (variableValue s).text = s ↔ Verbatim s := by
  unfold Verbatim
  rcases variableValue_cases s with ⟨b, value⟩ | ⟨i, value⟩ | ⟨x, value⟩ | value <;> rw [value]
  · exact eq_comm
  · exact eq_comm
  · exact eq_comm
  · exact iff_of_true rfl trivial

theorem toText_leaf {v : Scalar} (filled : v ≠ .nil) (origin : Option String) :
    (leaf origin v).toText = .ok v.text := by
  cases v with
  | nil => exact absurd rfl filled
  | _ => rfl

theorem optional_toText_leaf {v : Scalar} (filled : v ≠ .nil) (origin : Option String) :
    optional toText (leaf origin v) = .ok (some v.text) := by
  cases v with
  | nil => exact absurd rfl filled
  | _ => rfl

/-! ## Credentials -/

/-- The settings of the server that are texts. -/
inductive Credential
  | uri
  | user
  | password
  | database

namespace Credential

def key : Credential → String
  | uri => "uri"
  | user => "user"
  | password => "password"
  | database => "database"

def variableName : Credential → String
  | uri => "METAGRAPH__NEO4J__URI"
  | user => "METAGRAPH__NEO4J__USER"
  | password => "METAGRAPH__NEO4J__PASSWORD"
  | database => "METAGRAPH__NEO4J__DATABASE"

def value (c : Credential) (server : ServerSettings) : Option String :=
  match c with
  | uri => some server.uri
  | user => some server.user
  | password => some server.password
  | database => server.database

def put (c : Credential) (text : String) (server : ServerSettings) : ServerSettings :=
  match c with
  | uri => { server with uri := text }
  | user => { server with user := text }
  | password => { server with password := text }
  | database => { server with database := some text }

/-- A variable that says nothing about a credential, nor about all settings of the server. -/
def Apart (c : Credential) (name : String) : Prop :=
  ∀ path, variablePath? name = some path → Node.Apart "neo4j" c.key path

theorem value_put (c : Credential) (text : String) (server : ServerSettings) :
    c.value (c.put text server) = some text := by
  cases c <;> rfl

theorem variablePath?_variableName (c : Credential) :
    variablePath? c.variableName = some ("neo4j." ++ c.key) := by
  cases c <;> rfl

theorem ofName_path (c : Credential) :
    Step.ofName ("neo4j." ++ c.key) = [.key "neo4j", .key c.key] := by
  cases c <;> rfl

end Credential

/-! ## Records from trees -/

/-- The slot of a table under a key. -/
def slot (t : Node) (key : String) : Option (Step × Node) := (t.field? key).map (.key key, ·)

theorem slot_congr {t t' : Node} {key : String} (same : t'.field? key = t.field? key) :
    slot t' key = slot t key := by
  rw [slot, same, slot]

theorem toServerSettings_eq_ok_iff {origin : Option String} {fields : List (String × Node)}
    {server : ServerSettings} :
    (table origin fields).toServerSettings = .ok server ↔
      ∃ uri user password database connections size,
        fill (slot (table origin fields) "uri") toText = .ok uri ∧
        fill (slot (table origin fields) "user") toText = .ok user ∧
        fill (slot (table origin fields) "password") toText = .ok password ∧
        fill (slot (table origin fields) "database") (optional toText) = .ok database ∧
        fill (slot (table origin fields) "max_connections") toUInt32 = .ok connections ∧
        fill (slot (table origin fields) "fetch_size") toUInt64 = .ok size ∧
        server = ⟨uri.getD ServerSettings.default.uri, user.getD ServerSettings.default.user,
          password.getD ServerSettings.default.password,
          database.getD ServerSettings.default.database,
          connections.getD ServerSettings.default.maxConnections,
          size.getD ServerSettings.default.fetchSize⟩ := by
  constructor
  · intro read
    obtain ⟨_, slots, read⟩ := bind_eq_ok_iff.mp read
    cases slots
    obtain ⟨uri, uriRead, read⟩ := bind_eq_ok_iff.mp read
    obtain ⟨user, userRead, read⟩ := bind_eq_ok_iff.mp read
    obtain ⟨password, passwordRead, read⟩ := bind_eq_ok_iff.mp read
    obtain ⟨database, databaseRead, read⟩ := bind_eq_ok_iff.mp read
    obtain ⟨connections, connectionsRead, read⟩ := bind_eq_ok_iff.mp read
    obtain ⟨size, sizeRead, read⟩ := bind_eq_ok_iff.mp read
    cases read
    exact ⟨uri, user, password, database, connections, size, uriRead, userRead, passwordRead,
      databaseRead, connectionsRead, sizeRead, rfl⟩
  · rintro ⟨uri, user, password, database, connections, size, uriRead, userRead, passwordRead,
      databaseRead, connectionsRead, sizeRead, rfl⟩
    refine bind_eq_ok_iff.mpr ⟨_, rfl, ?_⟩
    refine bind_eq_ok_iff.mpr ⟨uri, uriRead, ?_⟩
    refine bind_eq_ok_iff.mpr ⟨user, userRead, ?_⟩
    refine bind_eq_ok_iff.mpr ⟨password, passwordRead, ?_⟩
    refine bind_eq_ok_iff.mpr ⟨database, databaseRead, ?_⟩
    refine bind_eq_ok_iff.mpr ⟨connections, connectionsRead, ?_⟩
    exact bind_eq_ok_iff.mpr ⟨size, sizeRead, rfl⟩

theorem toSettings_eq_ok_iff {origin : Option String} {fields : List (String × Node)}
    {settings : Settings} :
    (table origin fields).toSettings = .ok settings ↔
      ∃ entityTypes server writer,
        fill (slot (table origin fields) "entity_types") (toList toDescriptor) =
          .ok entityTypes ∧
        fill (slot (table origin fields) "neo4j") toServerSettings = .ok server ∧
        fill (slot (table origin fields) "writer") toWriterSettings = .ok writer ∧
        settings = ⟨server.getD .default, writer.getD .default, entityTypes.getD []⟩ := by
  constructor
  · intro read
    obtain ⟨_, slots, read⟩ := bind_eq_ok_iff.mp read
    cases slots
    obtain ⟨entityTypes, typesRead, read⟩ := bind_eq_ok_iff.mp read
    obtain ⟨server, serverRead, read⟩ := bind_eq_ok_iff.mp read
    obtain ⟨writer, writerRead, read⟩ := bind_eq_ok_iff.mp read
    cases read
    exact ⟨entityTypes, server, writer, typesRead, serverRead, writerRead, rfl⟩
  · rintro ⟨entityTypes, server, writer, typesRead, serverRead, writerRead, rfl⟩
    refine bind_eq_ok_iff.mpr ⟨_, rfl, ?_⟩
    refine bind_eq_ok_iff.mpr ⟨entityTypes, typesRead, ?_⟩
    refine bind_eq_ok_iff.mpr ⟨server, serverRead, ?_⟩
    exact bind_eq_ok_iff.mpr ⟨writer, writerRead, rfl⟩

theorem fill_eq_ok_of_slot {α : Type} {t v : Node} {key : String}
    {convert : Node → Except LoadError α} {a : α} (found : t.field? key = some v)
    (converts : convert v = .ok a) :
    fill (slot t key) convert = .ok (some a) := by
  rw [slot, found, Option.map_some, fill, converts]
  rfl

/-- A credential in the table of the server goes to its place, and nothing else changes. -/
theorem Credential.toServerSettings_put (c : Credential) {origin origin' : Option String}
    {fields fields' : List (String × Node)} {source : Option String} {v : Scalar}
    {server : ServerSettings} (filled : v ≠ .nil)
    (top : (table origin' fields').field? c.key = some (leaf source v))
    (others : ∀ k, k ≠ c.key → (table origin' fields').field? k = (table origin fields).field? k)
    (read : (table origin fields).toServerSettings = .ok server) :
    (table origin' fields').toServerSettings = .ok (c.put v.text server) := by
  obtain ⟨uri, user, password, database, connections, size, uriRead, userRead, passwordRead,
    databaseRead, connectionsRead, sizeRead, rfl⟩ := toServerSettings_eq_ok_iff.mp read
  have same : ∀ k, k ≠ c.key → slot (table origin' fields') k = slot (table origin fields) k :=
    fun k other => slot_congr (others k other)
  have text := toText_leaf filled source
  refine toServerSettings_eq_ok_iff.mpr ?_
  cases c with
  | uri =>
      simp (disch := decide) only [same]
      exact ⟨some v.text, user, password, database, connections, size, fill_eq_ok_of_slot top text,
        userRead, passwordRead, databaseRead, connectionsRead, sizeRead, rfl⟩
  | user =>
      simp (disch := decide) only [same]
      exact ⟨uri, some v.text, password, database, connections, size, uriRead,
        fill_eq_ok_of_slot top text, passwordRead, databaseRead, connectionsRead, sizeRead, rfl⟩
  | password =>
      simp (disch := decide) only [same]
      exact ⟨uri, user, some v.text, database, connections, size, uriRead, userRead,
        fill_eq_ok_of_slot top text, databaseRead, connectionsRead, sizeRead, rfl⟩
  | database =>
      simp (disch := decide) only [same]
      exact ⟨uri, user, password, some (some v.text), connections, size, uriRead, userRead,
        passwordRead, fill_eq_ok_of_slot top (optional_toText_leaf filled source),
        connectionsRead, sizeRead, rfl⟩

/-- The settings of the server are an array, which is read by position. -/
def Listed (t : Node) : Prop := ∃ origin items, t.field? "neo4j" = some (arr origin items)

/-- A table takes the credential in, and an array gives way to one that has nothing else. -/
theorem Credential.toServerSettings_over (c : Credential) {source : Option String} {v : Scalar}
    {t t' : Node} (filled : v ≠ .nil) (adds : Adds "neo4j" c.key (leaf source v) t t')
    {server : Option ServerSettings} (read : fill (slot t "neo4j") toServerSettings = .ok server) :
    ∃ preset, (Listed t → preset = .default) ∧ (¬ Listed t → preset = server.getD .default) ∧
      fill (slot t' "neo4j") toServerSettings = .ok (some (c.put v.text preset)) := by
  obtain ⟨w, found, top, others⟩ := adds.here
  -- only a table has fields
  obtain ⟨origin', fields', rfl⟩ : ∃ origin' fields', w = table origin' fields' := by
    cases w with
    | table origin' fields' => exact ⟨origin', fields', rfl⟩
    | _ => cases top
  have bare : (table none []).toServerSettings = .ok .default := rfl
  have alone : (∀ k, ((t.field? "neo4j").getD nothing).field? k = (table none []).field? k) →
      fill (slot t' "neo4j") toServerSettings = .ok (some (c.put v.text .default)) := by
    intro none
    exact fill_eq_ok_of_slot found (c.toServerSettings_put filled top
      (fun k other => (others k other).trans (none k)) bare)
  cases stands : t.field? "neo4j" with
  | none =>
      rw [slot, stands] at read
      cases read
      exact ⟨.default, fun _ => rfl, fun _ => rfl, alone fun k => by rw [stands]; rfl⟩
  | some u =>
      rw [slot, stands] at read
      cases u with
      | leaf origin scalar => cases read
      | arr origin items =>
          have listed : Listed t := ⟨origin, items, stands⟩
          exact ⟨.default, fun _ => rfl, fun other => absurd listed other,
            alone fun k => by rw [stands]; rfl⟩
      | table origin fields =>
          have unlisted : ¬ Listed t := by
            rintro ⟨_, _, listed⟩
            cases stands.symm.trans listed
          obtain ⟨preset, tableRead, rfl⟩ := map_eq_ok_iff.mp read
          rw [mapError_eq_ok_iff] at tableRead
          rw [stands] at others
          exact ⟨preset, fun listed => absurd listed unlisted, fun _ => rfl,
            fill_eq_ok_of_slot found (c.toServerSettings_put filled top others tableRead)⟩

/-- A credential in the tree of all sources is in the settings that come out. -/
theorem Credential.toSettings_over (c : Credential) {source : Option String} {v : Scalar}
    {origin origin' : Option String} {fields fields' : List (String × Node)} (filled : v ≠ .nil)
    (adds : Adds "neo4j" c.key (leaf source v) (table origin fields) (table origin' fields'))
    {settings : Settings} (read : (table origin fields).toSettings = .ok settings) :
    ∃ preset, (Listed (table origin fields) → preset = .default) ∧
      (¬ Listed (table origin fields) → preset = settings.server) ∧
      (table origin' fields').toSettings =
        .ok { settings with server := c.put v.text preset } := by
  obtain ⟨entityTypes, server, writer, typesRead, serverRead, writerRead, rfl⟩ :=
    toSettings_eq_ok_iff.mp read
  obtain ⟨preset, listed, unlisted, overRead⟩ := c.toServerSettings_over filled adds serverRead
  have types := slot_congr (adds.elsewhere "entity_types" (by decide))
  have writers := slot_congr (adds.elsewhere "writer" (by decide))
  refine ⟨preset, listed, unlisted, toSettings_eq_ok_iff.mpr
    ⟨entityTypes, some (c.put v.text preset), writer, ?_, overRead, ?_, rfl⟩⟩
  · rw [types]
    exact typesRead
  · rw [writers]
    exact writerRead

/-! ## Loading -/

theorem eq_ok_of_toOption {α : Type} {x : Except LoadError α} {a : α}
    (found : x.toOption = some a) : x = .ok a := by
  cases x with
  | error e => cases found
  | ok b =>
      cases found
      rfl

theorem environmentFields_append (before after : Environment) :
    environmentFields (before ++ after) = environmentFields before ++ environmentFields after :=
  List.filterMap_append

theorem environmentFields_cons (c : Credential) (s : String) (after : Environment) :
    environmentFields ((c.variableName, s) :: after) =
      ("neo4j." ++ c.key, .leaf (some "the environment") (variableValue s)) ::
        environmentFields after := by
  refine List.filterMap_cons_some ?_
  dsimp only
  rw [c.variablePath?_variableName]
  rfl

theorem apart_of_mem_environmentFields {c : Credential} {environment : Environment}
    (apart : ∀ other ∈ environment, c.Apart other.1) {entry : String × Node}
    (member : entry ∈ environmentFields environment) : Node.Apart "neo4j" c.key entry.1 := by
  obtain ⟨other, among, found⟩ := List.mem_filterMap.mp member
  obtain ⟨path, means, rfl⟩ := Option.map_eq_some_iff.mp found
  exact apart other among path means

variable {files : Files} {name : String} {fields : List (String × Node)}
variable {before after : Environment} {settings : Settings}

theorem load_of_read (read : fileFields files name = .ok fields) (environment : Environment) :
    load files environment name =
      (table none (layered [fields, environmentFields environment])).toSettings := by
  rw [load, read]
  rfl

theorem plain_of_mem_sources (plain : ∀ field ∈ fields, Plain field.1) {environment : Environment}
    {entry : String × Node} (member : entry ∈ [fields, environmentFields environment].flatten) :
    Plain entry.1 := by
  rw [List.flatten_cons, List.flatten_singleton] at member
  rcases List.mem_append.mp member with inFile | inEnvironment
  · exact plain entry inFile
  · exact plain_of_lower (lower_of_mem_environmentFields inEnvironment)

/-- The trees with and without the variable of a credential differ in that credential only. -/
theorem Credential.adds_layered (c : Credential) (s : String)
    (plain : ∀ field ∈ fields, Plain field.1) (apart : ∀ other ∈ after, c.Apart other.1) :
    Adds "neo4j" c.key (leaf (some "the environment") (variableValue s))
      (table none (layered [fields, environmentFields (before ++ after)]))
      (table none
        (layered [fields, environmentFields (before ++ (c.variableName, s) :: after)])) := by
  have low : lowerKey ("neo4j." ++ c.key) = "neo4j." ++ c.key :=
    lower_of_variablePath? c.variablePath?_variableName
  have without : [fields, environmentFields (before ++ after)].flatten =
      (fields ++ environmentFields before) ++ environmentFields after := by
    rw [environmentFields_append]
    simp
  have added : [fields, environmentFields (before ++ (c.variableName, s) :: after)].flatten =
      (fields ++ environmentFields before) ++
        ("neo4j." ++ c.key, leaf (some "the environment") (variableValue s)) ::
          environmentFields after := by
    rw [environmentFields_append, environmentFields_cons]
    simp
  have adds : Adds "neo4j" c.key (leaf (some "the environment") (variableValue s))
      ([fields, environmentFields (before ++ after)].flatten.foldl Node.put (table none []))
      ([fields, environmentFields (before ++ (c.variableName, s) :: after)].flatten.foldl
        Node.put (table none [])) := by
    rw [without, added]
    exact adds_foldl low c.ofName_path (fun entry => lower_of_mem_environmentFields)
      (fun entry => apart_of_mem_environmentFields apart) _
  exact adds.layered (fun entry => plain_of_mem_sources plain)
    fun entry => plain_of_mem_sources plain

/-- If settings load without a credential in the environment, they load with it. It comes out as
the text of the value that its variable has, which is the text of the variable exactly if that is
how the value is written. The rest of the settings is what it was. Only where the settings of the
server were listed in an array, which gives way, the rest of those is preset. -/
theorem load_credential (c : Credential) (s : String)
    (read : fileFields files name = .ok fields) (plain : ∀ field ∈ fields, Plain field.1)
    (apart : ∀ other ∈ before ++ after, c.Apart other.1)
    (loads : load files (before ++ after) name = .ok settings) :
    let tree := table none (layered [fields, environmentFields (before ++ after)])
    ∃ server, load files (before ++ (c.variableName, s) :: after) name =
        .ok { settings with server := server } ∧
      c.value server = some (variableValue s).text ∧
      (c.value server = some s ↔ Verbatim s) ∧
      ∃ preset, server = c.put (variableValue s).text preset ∧
        (Listed tree → preset = .default) ∧ (¬ Listed tree → preset = settings.server) := by
  intro tree
  have adds := @Credential.adds_layered fields before after c s plain fun other later =>
    apart other (List.mem_append_right _ later)
  rw [load_of_read read] at loads
  obtain ⟨preset, listed, unlisted, converts⟩ :=
    c.toSettings_over (variableValue_ne_nil s) adds loads
  refine ⟨c.put (variableValue s).text preset, ?_, c.value_put _ _, ?_, preset, rfl, listed,
    unlisted⟩
  · rw [load_of_read read]
    exact converts
  · rw [c.value_put, Option.some.injEq]
    exact text_variableValue_eq_iff s

/-- A password in the environment wins over the one in the file, beside another variable. -/
theorem load_credential_secret :
    let files : Files := fun path =>
      if path = "metagraph.toml" then .ok "[neo4j]\npassword = \"old\"" else .error .missing
    let user := (Credential.user.variableName, "ann")
    let loads := load files [user, (Credential.password.variableName, "secret")] "metagraph"
    ∃ settings, loads = .ok settings ∧ settings.server.password = "secret" := by
  intro files user loads
  have parts : ∀ c ∈ "neo4j".toList, Step.isKeyPart c = true := List.all_eq_true.mp rfl
  have bare : Plain "neo4j" :=
    plain_of_within ⟨by decide, fun c member => ⟨parts c member, member⟩⟩
  have apart : Credential.password.Apart user.1 := by
    intro path means rest leads
    cases (Credential.user.variablePath?_variableName).symm.trans means
    cases (Credential.user.ofName_path).symm.trans leads
    exact ⟨"user", [], rfl, by decide⟩
  have names : (fileFields files "metagraph").toOption.map (·.map Prod.fst) = some ["neo4j"] := by
    decide +kernel
  obtain ⟨fields, found, only⟩ := Option.map_eq_some_iff.mp names
  have plain : ∀ field ∈ fields, Plain field.1 := by
    intro field member
    have name : field.1 ∈ ["neo4j"] := only ▸ List.mem_map_of_mem member
    exact List.mem_singleton.mp name ▸ bare
  have before : (load files [user] "metagraph").toOption =
      some ⟨⟨"bolt://localhost:7687", "ann", "old", none, 16, 256⟩, .default, []⟩ := by
    decide +kernel
  obtain ⟨server, loaded, -, value, -⟩ :=
    @load_credential files "metagraph" fields [user] [] _ .password "secret"
      (eq_ok_of_toOption found) plain (by simpa using apart) (eq_ok_of_toOption before)
  have verbatim : Verbatim "secret" := trivial
  exact ⟨_, loaded, Option.some.inj (value.mpr verbatim)⟩

/-- A password of digits loses its zero in the environment, and keeps it in the file. -/
theorem load_drops_zero :
    let empty : Files := fun _ => .error .missing
    let files : Files := fun path =>
      if path = "metagraph.toml" then .ok "[neo4j]\npassword = \"0123\"" else .error .missing
    let password (loads : Except LoadError Settings) := loads.toOption.map (·.server.password)
    password (load empty [(Credential.password.variableName, "0123")] "metagraph") = some "123" ∧
      password (load files [] "metagraph") = some "0123" := by
  decide +kernel

end RecordGraph.Settings
