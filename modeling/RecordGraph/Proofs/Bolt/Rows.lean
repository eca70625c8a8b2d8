import Mathlib.Data.List.Perm.Basic
import RecordGraph.Bolt.Server
import RecordGraph.Proofs.Property.RoundTrip

/-!
# Properties in rows

Properties go to a server as values of the wire and come back in rows that a driver shows in
JSON form. A driver that shows each kind of value as its JSON counterpart gives them back as
they were, since no float is lost and nothing in them is null. The fields of a map may come back
in another order than they went. A read gives the properties of all rows in order, or an error
and no row.
-/

namespace RecordGraph.Bolt

/-- Values are shown as their JSON counterparts: truth values, whole numbers, finite floats,
texts, lists of such values, and maps of them under different names. -/
structure Shows (present : Value → Option Json) : Prop where
  bool (b : Bool) : present (.bool b) = some (.bool b)
  int (i : Int64) : present (.int i) = some (.int (Json.Integer.ofInt64 i))
  float (x : Double) (finite : x.isFinite = true) :
    present (.float x) = some (.float ⟨x, finite⟩)
  str (s : String) : present (.str s) = some (.str s)
  list {items : List Value} {shown : List Json} (each : items.map present = shown.map some) :
    present (.list items) = some (.arr shown)
  map {fields : List (String × Value)} {shown : List (String × Json)}
    (distinct : (fields.map Prod.fst).Nodup)
    (each : fields.map (fun field => (field.1, present field.2)) =
      shown.map (fun field => (field.1, some field.2))) :
    present (.map fields) = some (.obj (SortedMap.ofList shown))

/-- A value with the fields of its maps, at every depth, in whatever order they come. -/
inductive Value.Rearranged : Value → Value → Prop
  | same (v : Value) : Rearranged v v
  | list {items items' : List Value} (each : List.Forall₂ Rearranged items items') :
      Rearranged (.list items) (.list items')
  | map {fields between fields' : List (String × Value)} (order : fields.Perm between)
      (names : between.map Prod.fst = fields'.map Prod.fst)
      (values : List.Forall₂ Rearranged (between.map Prod.snd) (fields'.map Prod.snd)) :
      Rearranged (.map fields) (.map fields')

namespace Value

theorem Rearranged.exists_items {v : Value} {items' : List Value}
    (same : Rearranged v (.list items')) :
    ∃ items, v = .list items ∧ List.Forall₂ Rearranged items items' := by
  cases same with
  | same v => exact ⟨items', rfl, List.forall₂_same.mpr fun v _ => .same v⟩
  | list each => exact ⟨_, rfl, each⟩

theorem Rearranged.exists_fields {v : Value} {fields' : List (String × Value)}
    (same : Rearranged v (.map fields')) :
    ∃ fields between : List (String × Value), v = .map fields ∧ fields.Perm between ∧
      List.Forall₂ (fun a b => a.1 = b.1 ∧ Rearranged a.2 b.2) between fields' := by
  cases same with
  | same v =>
      exact ⟨fields', fields', rfl, .refl _, List.forall₂_same.mpr fun field _ =>
        ⟨rfl, .same field.2⟩⟩
  | map order names values =>
      rw [← List.forall₂_eq_eq_eq, List.forall₂_map_left_iff, List.forall₂_map_right_iff] at names
      rw [List.forall₂_map_left_iff, List.forall₂_map_right_iff] at values
      exact ⟨_, _, rfl, order, names.mp (fun _ _ name value => ⟨name, value⟩) values⟩

theorem toItems?_of_shown {items : List Value} {shown : List Json}
    (each : items.map toJson? = shown.map some) : toItems? items = some shown := by
  induction items generalizing shown with
  | nil =>
      rw [List.map_eq_nil_iff.mp each.symm]
      rfl
  | cons v rest ih =>
      obtain ⟨j, js, rfl, first, later⟩ := List.map_eq_cons_iff.mp each.symm
      rw [toItems?, ← first, ih later.symm]
      rfl

theorem toFields?_of_shown {fields : List (String × Value)} {shown : List (String × Json)}
    (each : fields.map (fun field => (field.1, toJson? field.2)) =
      shown.map (fun field => (field.1, some field.2)))
    (read : List (String × Json)) :
    toFields? read fields = some (shown.foldl (fun m j => SortedMap.insert m j.1 j.2) read) := by
  induction fields generalizing shown read with
  | nil =>
      rw [List.map_eq_nil_iff.mp each.symm]
      rfl
  | cons field rest ih =>
      obtain ⟨key, v⟩ := field
      obtain ⟨j, js, rfl, first, later⟩ := List.map_eq_cons_iff.mp each.symm
      obtain ⟨rfl, first⟩ := Prod.mk.inj first
      rw [toFields?, ← first]
      exact ih later.symm _

theorem shows_toJson? : Shows toJson? where
  bool _ := rfl
  int _ := rfl
  float x finite := by rw [toJson?, Json.ofDouble, dif_pos finite]
  str _ := rfl
  list each := by
    rw [toJson?, toItems?_of_shown each]
    rfl
  map _ each := by
    rw [toJson?, toFields?_of_shown each]
    rfl

end Value

/-! ## One row -/

theorem ofItems_eq_map (items : List PropertyValue) : ofItems items = items.map ofProperty := by
  induction items with
  | nil => rfl
  | cons p rest ih => rw [ofItems, ih, List.map_cons]

theorem ofFields_eq_map (fields : List (String × PropertyValue)) :
    ofFields fields = fields.map fun field => (field.1, ofProperty field.2) := by
  induction fields with
  | nil => rfl
  | cons field rest ih => rw [ofFields, ih, List.map_cons]

theorem nodup_keys_of_sorted {fields : List (String × PropertyValue)}
    (sorted : SortedMap.Sorted fields) : (fields.map Prod.fst).Nodup :=
  List.pairwise_map.mpr (sorted.imp SortedMap.ne_of_lt)

variable {present : Value → Option Json}

theorem present_items {items : List Value} {ps : List PropertyValue}
    (same : List.Forall₂ Value.Rearranged items (ps.map ofProperty))
    (each : ∀ p ∈ ps, ∀ v, v.Rearranged (ofProperty p) → present v = some p.toJson) :
    items.map present = (ps.map PropertyValue.toJson).map some := by
  rw [List.forall₂_map_right_iff] at same
  induction same with
  | nil => rfl
  | cons first rest ih =>
      obtain ⟨here, there⟩ := List.forall_mem_cons.mp each
      exact congrArg₂ List.cons (here _ first) (ih there)

theorem present_fields {entries : List (String × Value)} {fields : List (String × PropertyValue)}
    (same : List.Forall₂ (fun a b => a.1 = b.1 ∧ Value.Rearranged a.2 (ofProperty b.2))
      entries fields)
    (each : ∀ field ∈ fields, ∀ v, Value.Rearranged v (ofProperty field.2) →
      present v = some field.2.toJson) :
    entries.map (fun entry => (entry.1, present entry.2)) =
      (fields.map fun field => (field.1, field.2.toJson)).map fun field =>
        (field.1, some field.2) := by
  induction same with
  | nil => rfl
  | cons first rest ih =>
      obtain ⟨name, value⟩ := first
      obtain ⟨here, there⟩ := List.forall_mem_cons.mp each
      exact congrArg₂ List.cons (congrArg₂ Prod.mk name (here _ value)) (ih there)

/-- A property is shown as it is written in JSON. -/
theorem Shows.ofProperty (shows : Shows present) {p : PropertyValue}
    (ordered : p.isOrdered = true) (finite : p.isFinite = true) {v : Value}
    (same : Value.Rearranged v (ofProperty p)) : present v = some p.toJson := by
  induction p using PropertyValue.induct generalizing v with
  | bool b =>
      cases same
      exact shows.bool b
  | int i =>
      cases same
      exact shows.int i
  | float x =>
      cases same
      rw [PropertyValue.toJson_float finite]
      exact shows.float x finite
  | str s =>
      cases same
      exact shows.str s
  | list items ih =>
      rw [Bolt.ofProperty, ofItems_eq_map] at same
      obtain ⟨vs, rfl, each⟩ := same.exists_items
      rw [PropertyValue.toJson, PropertyValue.toItems_eq_map]
      refine shows.list (present_items each ?_)
      intro p member v same
      exact ih p member (PropertyValue.isOrdered_list.mp ordered p member)
        (PropertyValue.isFinite_list.mp finite p member) same
  | map fields ih =>
      obtain ⟨sorted, parts⟩ := PropertyValue.isOrdered_map.mp ordered
      rw [Bolt.ofProperty, ofFields_eq_map] at same
      obtain ⟨entries, between, rfl, order, each⟩ := same.exists_fields
      rw [List.forall₂_map_right_iff] at each
      -- the order goes over to the properties, whose map is made of its fields in any order
      obtain ⟨fields', paired, order⟩ := List.perm_comp_forall₂ order each
      have written : SortedMap.Sorted (fields.map fun field => (field.1, field.2.toJson)) :=
        List.pairwise_map.mpr sorted
      have shown := present_fields paired fun field member v same =>
        have among := order.mem_iff.mp member
        ih field among (parts field among) (PropertyValue.isFinite_map.mp finite field among) same
      have names : entries.map Prod.fst = fields'.map Prod.fst := by
        have firsts := congrArg (List.map Prod.fst) shown
        rw [List.map_map, List.map_map, List.map_map] at firsts
        exact firsts
      rw [PropertyValue.toJson, PropertyValue.toFields_eq_map,
        ← SortedMap.ofList_of_perm written (order.map _)]
      refine shows.map ?_ shown
      rw [names, (order.map Prod.fst).nodup_iff]
      exact nodup_keys_of_sorted sorted

namespace Row

/-- The value that a row has in the column of properties. -/
def value? (row : Row) : Option Value :=
  (row.find? (·.1 = propertiesColumn)).map Prod.snd

/-- A row without properties: it lacks the column, its value is not shown, or it is not shown as
a map. -/
def Bare (present : Value → Option Json) (row : Row) : Prop :=
  ∀ v fields, row.value? = some v → present v ≠ some (.obj fields)

/-- A row has properties just if its value is shown as a map. -/
theorem properties_eq_ok_iff {row : Row} {m : PropertyMap} :
    row.properties present = .ok m ↔ ∃ v fields, row.value? = some v ∧
      present v = some (.obj fields) ∧ m = PropertyMap.ofJson fields := by
  unfold properties value?
  split
  · rename_i missing
    rw [missing]
    constructor
    · exact nofun
    · rintro ⟨v, fields, found, -⟩
      cases found
  · rename_i v found
    rw [found]
    constructor
    · intro decoded
      split at decoded
      · cases decoded
      · rename_i fields shown
        cases decoded
        exact ⟨v, fields, rfl, shown, rfl⟩
      · cases decoded
    · rintro ⟨v, fields, same, shown, rfl⟩
      cases same
      rw [shown]

/-- A row is bare just if it gives an error. -/
theorem bare_iff {row : Row} : row.Bare present ↔ ∃ e, row.properties present = .error e := by
  constructor
  · intro bare
    cases decoded : row.properties present with
    | error e => exact ⟨e, rfl⟩
    | ok m =>
        obtain ⟨v, fields, found, shown, -⟩ := properties_eq_ok_iff.mp decoded
        exact absurd shown (bare v fields found)
  · rintro ⟨e, failed⟩ v fields found shown
    cases failed.symm.trans (properties_eq_ok_iff.mpr ⟨v, fields, found, shown, rfl⟩)

/-- A row holds properties as they were sent, but for the order of their fields. -/
def Holds (row : Row) (p : Properties) : Prop :=
  ∃ v, row.value? = some v ∧ v.Rearranged (ofProperty (.map p.map))

/-- The row of the properties that were sent has them. -/
theorem properties_of_holds (shows : Shows present) {row : Row} {p : Properties}
    (finite : p.map.isFinite = true) (holds : row.Holds p) :
    row.properties present = .ok p.map := by
  obtain ⟨v, found, same⟩ := holds
  have shown := @Shows.ofProperty _ shows (.map p.map) p.ordered finite _ same
  have read := congrArg Properties.map (Properties.ofJson_toFields finite)
  exact properties_eq_ok_iff.mpr ⟨_, _, found, shown, read.symm⟩

/-- Each of the rows is read as the properties in its place. -/
def Read (present : Value → Option Json) (rows : List Row) (ms : List PropertyMap) : Prop :=
  rows.map (properties present) = ms.map .ok

theorem Read.of_mem {rows : List Row} {ms : List PropertyMap}
    (each : Read present rows ms) {row : Row} (member : row ∈ rows) :
    ∃ m, row.properties present = .ok m := by
  have decoded := List.mem_map_of_mem (f := properties present) member
  rw [each] at decoded
  obtain ⟨m, -, same⟩ := List.mem_map.mp decoded
  exact ⟨m, same.symm⟩

theorem read_of_holds (shows : Shows present) {rows : List Row} {ps : List Properties}
    (finite : ∀ p ∈ ps, p.map.isFinite = true) (sent : List.Forall₂ Holds rows ps) :
    Read present rows (ps.map Properties.map) := by
  induction sent with
  | nil => rfl
  | cons first later ih =>
      obtain ⟨here, there⟩ := List.forall_mem_cons.mp finite
      exact congrArg₂ List.cons (properties_of_holds shows here first) (ih there)

end Row

/-! ## All rows -/

/-- What a read comes to: all rows in order, or the first thing that is wrong with them. -/
inductive Fetched (present : Value → Option Json) :
    Except Failure Stream → Except StoreError (List PropertyMap) → Prop
  | refused (f : Failure) : Fetched present (.error f) (.error f.storeError)
  | whole {stream : Stream} {ms : List PropertyMap} (ended : stream.failure = none)
      (each : Row.Read present stream.portions.flatten ms) :
      Fetched present (.ok stream) (.ok ms)
  | broken {stream : Stream} {ms : List PropertyMap} {f : Failure}
      (failed : stream.failure = some f) (each : Row.Read present stream.portions.flatten ms) :
      Fetched present (.ok stream) (.error f.storeError)
  | bare {stream : Stream} {before after : List Row} {row : Row} {ms : List PropertyMap}
      {e : StoreError} (split : stream.portions.flatten = before ++ row :: after)
      (each : Row.Read present before ms) (failed : row.properties present = .error e) :
      Fetched present (.ok stream) (.error e)

namespace Fetched

variable {stream : Stream} {asked : Except Failure Stream}
  {result : Except StoreError (List PropertyMap)}

/-- If all rows have properties and the stream ends well, the read gives these. -/
theorem eq_ok (fetched : Fetched present (.ok stream) result) (ended : stream.failure = none)
    {ms : List PropertyMap} (each : Row.Read present stream.portions.flatten ms) :
    result = .ok ms := by
  cases fetched with
  | whole _ same =>
      exact congrArg Except.ok
        ((List.map_inj_right fun _ _ => Except.ok.inj).mp (same.symm.trans each))
  | broken failed _ => cases ended.symm.trans failed
  | bare split _ failed =>
      rw [split] at each
      obtain ⟨m, decoded⟩ := each.of_mem (List.mem_append_right _ List.mem_cons_self)
      cases failed.symm.trans decoded

/-- A read gives an error just if the query fails, the stream breaks off or a row is bare. -/
theorem exists_error_iff (fetched : Fetched present asked result) :
    (∃ e, result = .error e) ↔
      (∃ f, asked = .error f) ∨
      ∃ stream, asked = .ok stream ∧
        (stream.failure ≠ none ∨ ∃ row ∈ stream.portions.flatten, row.Bare present) := by
  cases fetched with
  | refused f => exact ⟨fun _ => .inl ⟨f, rfl⟩, fun _ => ⟨_, rfl⟩⟩
  | broken failed _ =>
      refine ⟨fun _ => .inr ⟨_, rfl, .inl ?_⟩, fun _ => ⟨_, rfl⟩⟩
      rw [failed]
      exact nofun
  | bare split _ failed =>
      have bare := Row.bare_iff.mpr ⟨_, failed⟩
      refine ⟨fun _ => .inr ⟨_, rfl, .inr ⟨_, ?_, bare⟩⟩, fun _ => ⟨_, rfl⟩⟩
      rw [split]
      exact List.mem_append_right _ List.mem_cons_self
  | whole ended each =>
      constructor
      · exact nofun
      · rintro (⟨f, impossible⟩ | ⟨other, same, wrong⟩)
        · cases impossible
        · cases same
          rcases wrong with failed | ⟨row, member, bare⟩
          · exact absurd ended failed
          · obtain ⟨m, decoded⟩ := each.of_mem member
            obtain ⟨e, failed⟩ := Row.bare_iff.mp bare
            cases failed.symm.trans decoded

end Fetched

namespace Driver

variable {d : Driver σ}

theorem decodeRows_append (rows more : List Row) :
    d.decodeRows (rows ++ more) = do
      let ms ← d.decodeRows rows
      let others ← d.decodeRows more
      return ms ++ others := by
  induction rows with
  | nil =>
      rw [List.nil_append]
      cases d.decodeRows more <;> rfl
  | cons row rest ih =>
      rw [List.cons_append, decodeRows, decodeRows, ih]
      cases row.properties d.present with
      | error e => rfl
      | ok m =>
          cases d.decodeRows rest with
          | error e => rfl
          | ok ms => cases d.decodeRows more <;> rfl

theorem read_of_decodeRows {rows : List Row} {ms : List PropertyMap}
    (decoded : d.decodeRows rows = .ok ms) : Row.Read d.present rows ms := by
  induction rows generalizing ms with
  | nil =>
      cases decoded
      rfl
  | cons row rest ih =>
      obtain ⟨m, first, later⟩ := bind_eq_ok_iff.mp decoded
      obtain ⟨others, rows, done⟩ := bind_eq_ok_iff.mp later
      cases done
      exact congr (congrArg List.cons first) (ih rows)

/-- The first row that is bare gives the error of all. -/
theorem decodeRows_eq_error {rows : List Row} {e : StoreError}
    (failed : d.decodeRows rows = .error e) :
    ∃ before row after ms, rows = before ++ row :: after ∧ Row.Read d.present before ms ∧
      row.properties d.present = .error e := by
  induction rows with
  | nil => cases failed
  | cons row rest ih =>
      rcases bind_eq_error_iff.mp failed with here | ⟨m, first, later⟩
      · exact ⟨[], row, rest, [], rfl, rfl, here⟩
      · rcases bind_eq_error_iff.mp later with there | ⟨ms, rows, impossible⟩
        · obtain ⟨before, other, after, ms, rfl, each, found⟩ := ih there
          exact ⟨row :: before, other, after, m :: ms, rfl,
            congr (congrArg List.cons first) each, found⟩
        · cases impossible

/-- What the rows of a stream come to. -/
def streamed (d : Driver σ) (stream : Stream) : Except StoreError (List PropertyMap) :=
  match d.decodeRows stream.portions.flatten, stream.failure with
  | .error e, _ => .error e
  | .ok _, some f => .error f.storeError
  | .ok ms, none => .ok ms

/-- The rows of a stream are read as if they came in one portion. -/
theorem collect_eq (failure : Option Failure) (portions : List (List Row)) (s : σ) :
    (d.collect failure portions s).1 = d.streamed ⟨portions, failure⟩ := by
  induction portions generalizing s with
  | nil => cases failure <;> rfl
  | cons portion rest ih =>
      have later := ih (d.pull s)
      unfold streamed at later ⊢
      rw [List.flatten_cons, decodeRows_append, collect]
      cases d.decodeRows portion with
      | error e => rfl
      | ok ms =>
          generalize d.collect failure rest (d.pull s) = collected at later
          obtain ⟨others, after⟩ := collected
          change others.map (ms ++ ·) = _
          change others = _ at later
          rw [later]
          cases d.decodeRows rest.flatten with
          | error e => rfl
          | ok others => cases failure <;> rfl

/-- A read is what comes of the query and of the rows of its stream. -/
theorem fetched (d : Driver σ) (statement : Statement) (s : σ) :
    Fetched d.present (d.query statement s).1 (d.fetch statement s).1 := by
  unfold fetch
  rcases d.query statement s with ⟨f | stream, after⟩
  · exact .refused f
  · change Fetched d.present (.ok stream) (d.collect stream.failure stream.portions after).1
    rw [collect_eq, streamed]
    cases decoded : d.decodeRows stream.portions.flatten with
    | error e =>
        obtain ⟨before, row, later, ms, split, each, failed⟩ := decodeRows_eq_error decoded
        exact .bare split each failed
    | ok ms =>
        have each := read_of_decodeRows decoded
        cases failure : stream.failure with
        | none => exact .whole failure each
        | some f => exact .broken failure each

/-- Properties survive the way to a server and back. A read whose rows hold properties with
finite floats, as they were sent but for the order of their fields, gives these properties in the
order of the rows. If the query fails, the stream breaks off or a row is bare, the read gives an
error and no row. -/
theorem fetch_returns_sent (d : Driver σ) (shows : Shows d.present) (statement : Statement)
    (s : σ) :
    Fetched d.present (d.query statement s).1 (d.fetch statement s).1 ∧
    (∀ stream (ps : List Properties), (d.query statement s).1 = .ok stream →
      stream.failure = none → (∀ p ∈ ps, p.map.isFinite = true) →
      List.Forall₂ Row.Holds stream.portions.flatten ps →
      (d.fetch statement s).1 = .ok (ps.map Properties.map)) ∧
    ((∃ e, (d.fetch statement s).1 = .error e) ↔
      (∃ f, (d.query statement s).1 = .error f) ∨
      ∃ stream, (d.query statement s).1 = .ok stream ∧
        (stream.failure ≠ none ∨ ∃ row ∈ stream.portions.flatten, row.Bare d.present)) := by
  have fetched := d.fetched statement s
  refine ⟨fetched, ?_, fetched.exists_error_iff⟩
  intro stream ps asked ended finite sent
  rw [asked] at fetched
  exact fetched.eq_ok ended (Row.read_of_holds shows finite sent)

/-- A server that gives two rows, the second in another portion, and the fields of the first in
the opposite order: values that look alike keep their kinds. Where a number takes the place of
the second, there is an error and no row. -/
theorem fetch_returns_sent_alike :
    let statement : Statement := ⟨.matchNodes "Person", "", []⟩
    let turned := Value.map (ofFields Properties.alike.map).reverse
    let server (second : Value) := Server.start { ServerSettings.default with fetchSize := 1 }
      true [] [.rows propertiesColumn [turned, second]]
    let read (second : Value) := (Server.driver.fetch statement (server second)).1
    Shows Server.driver.present ∧ turned.Rearranged (ofProperty (.map Properties.alike.map)) ∧
      read (ofProperty (.map [])) = .ok [Properties.alike.map, []] ∧
      ∃ e, read (.int 5) = .error e := by
  intro statement turned server read
  have shows : Shows Server.driver.present := Value.shows_toJson?
  have same : turned.Rearranged (ofProperty (.map Properties.alike.map)) :=
    .map (List.reverse_perm _) rfl (List.forall₂_same.mpr fun v _ => .same v)
  refine ⟨shows, same, ?_, ?_⟩
  · obtain ⟨-, returns, -⟩ := fetch_returns_sent Server.driver shows statement
      (server (ofProperty (.map [])))
    refine returns ⟨[[[(propertiesColumn, turned)]], [[(propertiesColumn, .map [])]]], none⟩
      [Properties.alike, Properties.empty] rfl rfl ?_ ?_
    · rw [List.forall_mem_cons, List.forall_mem_singleton]
      exact ⟨rfl, rfl⟩
    · exact .cons ⟨turned, rfl, same⟩ (.cons ⟨.map [], rfl, .same _⟩ .nil)
  · obtain ⟨-, -, fails⟩ := fetch_returns_sent Server.driver shows statement (server (.int 5))
    refine fails.mpr (.inr ⟨⟨[[[(propertiesColumn, turned)]], [[(propertiesColumn, .int 5)]]],
      none⟩, rfl, .inr ⟨[(propertiesColumn, .int 5)], ?_, ?_⟩⟩)
    · exact List.mem_cons_of_mem _ List.mem_cons_self
    · exact Row.bare_iff.mpr ⟨_, rfl⟩

end Driver

end RecordGraph.Bolt
