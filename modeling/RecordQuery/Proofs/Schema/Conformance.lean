import RecordQuery.Schema.ResolvedPath
import RecordQuery.Value.Read

/-!
# `Proofs.Schema.Conformance` — records that hold what their schema declares

A record **conforms** to a schema if each field reads as null only where the schema lets it, and
otherwise as a value of the declared type; records inside it and elements of its lists conform in
turn. Everything that filters and seeks promise is promised of conforming records.

## Contents
- `Scalar.isOf`, `Value.HasType`, `Field.Admits`, `Record.Conforms`: the definitions.
- `Catalog.Route`: the fields that a path leads through, as both path resolvers find them
  (`property_route`, `key_route`).
- `Clear` / `Blocked`: whether paths can be read one after the other without meeting a null.
- `Route.reach`: on a conforming record a resolved path either reads as an admitted value, its
  nullable records all there, or is blocked by the first of them that is not.
- `people`: a catalog of record types that refer to each other.
-/

namespace RecordQuery

/-! ## Values of a declared type -/

/-- Whether a scalar is of a declared type. A numeric type takes every kind of number, and null is
    of no type. -/
def Scalar.isOf : FieldType → Scalar → Bool
  | .bool, .bool _ => true
  | .int, .number _ | .uint, .number _ | .float, .number _ => true
  | .string, .string _ => true
  | .timestamp, .timestamp _ => true
  | .uuid, .uuid _ => true
  | .enum _, .enum _ => true
  | _, _ => false

/-- The member that a name stands for has its place among the variants. -/
theorem Member.getElem?_of_find? {variants : List String} {name : String} {m : Member}
    (h : Member.find? variants name = some m) : variants[m.ordinal]? = some m.name := by
  obtain ⟨place, hplace, rfl⟩ := Option.map_eq_some_iff.mp h
  obtain ⟨hlt, hname, -⟩ := List.findIdx?_eq_some_iff_getElem.mp hplace
  rw [List.getElem?_eq_getElem hlt, beq_iff_eq.mp hname]

/-- A value is of a declared type. In a record the fields that the schema finds by name count; a
    list is no longer than a 64-bit count says. -/
inductive Value.HasType (catalog : Catalog) : FieldType → Value → Prop
  | scalar {type : FieldType} {s : Scalar} (h : s.isOf type = true) :
      HasType catalog type (.scalar s)
  | record {place : Nat} {fields : Record}
      (h : ∀ name field, (catalog.schema place).field? name = some field →
        ¬(field.nullable = true ∧ fields.field name = .null) →
        HasType catalog field.type (fields.field name)) :
      HasType catalog (.record place) (.record fields)
  | list {element : FieldType} {items : List Value} (short : items.length < 2 ^ 64)
      (h : ∀ item ∈ items, HasType catalog element item) :
      HasType catalog (.list element) (.list items)

/-- A field may hold the value. -/
def Field.Admits (catalog : Catalog) (field : Field) (value : Value) : Prop :=
  (field.nullable = true ∧ value = .null) ∨ value.HasType catalog field.type

/-- The record holds in every field of the schema what the field may hold. -/
def Record.Conforms (catalog : Catalog) (schema : Schema) (record : Record) : Prop :=
  ∀ name field, schema.field? name = some field → field.Admits catalog (record.field name)

variable {catalog : Catalog} {schema : Schema} {record : Record}

/-- Scalar types are inhabited by scalars only. -/
theorem Value.HasType.exists_scalar {type : FieldType} {v : Value} (h : v.HasType catalog type)
    (hs : type.isScalar = true) : ∃ s, v = .scalar s ∧ s.isOf type = true := by
  cases h with
  | scalar h => exact ⟨_, rfl, h⟩
  | record _ => simp [FieldType.isScalar] at hs
  | list _ _ => simp [FieldType.isScalar] at hs

/-- A value of a record type is a record that conforms to the schema of the type. -/
theorem Value.HasType.exists_record {place : Nat} {v : Value}
    (h : v.HasType catalog (.record place)) :
    ∃ fields : Record, v = .record fields ∧ fields.Conforms catalog (catalog.schema place) := by
  cases h with
  | scalar h => simp [Scalar.isOf] at h
  | @record _ fields h =>
      refine ⟨fields, rfl, ?_⟩
      intro name field hf
      by_cases hn : field.nullable = true ∧ fields.field name = .null
      · exact Or.inl hn
      · exact Or.inr (h name field hf hn)

/-- Values of a record type are records that conform to the schema of the type. -/
theorem Catalog.exists_records {catalog : Catalog} {place : Nat} {items : List Value}
    (typed : ∀ item ∈ items, item.HasType catalog (.record place)) :
    ∃ records : List Record, items = records.map .record ∧
      ∀ fields ∈ records, fields.Conforms catalog (catalog.schema place) := by
  induction items with
  | nil => exact ⟨[], rfl, fun fields hfields => absurd hfields List.not_mem_nil⟩
  | cons item items ih =>
      obtain ⟨hitem, hitems⟩ := List.forall_mem_cons.mp typed
      obtain ⟨fields, rfl, hconf⟩ := hitem.exists_record
      obtain ⟨records, rfl, hrecords⟩ := ih hitems
      exact ⟨fields :: records, rfl, List.forall_mem_cons.mpr ⟨hconf, hrecords⟩⟩

/-- A value of a list type is a list of values of the element type. -/
theorem Value.HasType.exists_list {element : FieldType} {v : Value}
    (h : v.HasType catalog (.list element)) :
    ∃ items, v = .list items ∧ items.length < 2 ^ 64 ∧
      ∀ item ∈ items, item.HasType catalog element := by
  cases h with
  | scalar h => simp [Scalar.isOf] at h
  | list short h => exact ⟨_, rfl, short, h⟩

/-- A record that conforms to the schema of a type is of the type. -/
theorem Record.Conforms.hasType {place : Nat} {fields : Record}
    (h : fields.Conforms catalog (catalog.schema place)) :
    Value.HasType catalog (.record place) (.record fields) := by
  refine .record ?_
  intro name field hf hn
  exact (h name field hf).resolve_left hn

theorem Schema.field?_some {name : String} {field : Field} (h : schema.field? name = some field) :
    field ∈ schema.fields ∧ field.name = name := by
  refine ⟨List.mem_of_find?_eq_some h, ?_⟩
  simpa using List.find?_some h

/-- To conform it is enough that every listed field is admitted. -/
theorem Record.conforms_of_fields
    (h : ∀ field ∈ schema.fields, field.Admits catalog (record.field field.name)) :
    record.Conforms catalog schema := by
  intro name field hf
  obtain ⟨hmem, rfl⟩ := Schema.field?_some hf
  exact h field hmem

/-- Null has no type. -/
theorem Value.HasType.isNull_eq_false {type : FieldType} {v : Value} (h : v.HasType catalog type) :
    v.isNull = false := by
  cases h with
  | @scalar type s h => cases s <;> simp_all [Scalar.isOf, Value.isNull, Scalar.isNull]
  | record _ => rfl
  | list _ _ => rfl

/-- A scalar field is null where it may be, or a scalar that is not null. -/
theorem Field.Admits.exists_scalar {field : Field} {v : Value} (h : field.Admits catalog v)
    (hs : field.type.isScalar = true) :
    (field.nullable = true ∧ v = .null) ∨ ∃ s, v = .scalar s ∧ s ≠ .null := by
  apply h.imp id
  intro htype
  obtain ⟨s, rfl, -⟩ := htype.exists_scalar hs
  refine ⟨s, rfl, ?_⟩
  rintro rfl
  exact Bool.noConfusion htype.isNull_eq_false

/-! ## Routes -/

/-- The names of `through` and then of `last` are looked up one after the other, each in the schema
    of the record type before it. -/
inductive Catalog.Route (catalog : Catalog) : Schema → List Field → Field → Prop
  | last {schema : Schema} {field : Field} (h : schema.field? field.name = some field) :
      Route catalog schema [] field
  | step {schema : Schema} {field last : Field} {place : Nat} {through : List Field}
      (h : schema.field? field.name = some field) (ht : field.type = .record place)
      (rest : Route catalog (catalog.schema place) through last) :
      Route catalog schema (field :: through) last

theorem Catalog.lookUp_ok {name : String} {field : Field} (h : lookUp schema name = .ok field) :
    schema.field? field.name = some field ∧ field.name = name := by
  unfold lookUp at h
  split at h
  · rename_i f hf
    cases h
    obtain ⟨-, rfl⟩ := Schema.field?_some hf
    exact ⟨hf, rfl⟩
  · cases h

/-- The path resolver of filters finds a route with the names of the path. -/
theorem Catalog.propertyFrom_route {path walked : Path} {p : ResolvedPath}
    (h : catalog.propertyFrom walked schema path = .ok p) :
    catalog.Route schema p.through p.last ∧ p.path = path := by
  induction path generalizing walked schema p with
  | nil => simp [propertyFrom] at h
  | cons name rest ih =>
      cases hf : lookUp schema name with
      | error e => cases rest <;> simp [propertyFrom, hf, bind, Except.bind] at h
      | ok field =>
          obtain ⟨hfield, rfl⟩ := lookUp_ok hf
          cases rest with
          | nil =>
              simp only [propertyFrom, hf, bind, Except.bind] at h
              cases h
              exact ⟨.last hfield, rfl⟩
          | cons next rest =>
              simp only [propertyFrom, hf, bind, Except.bind] at h
              split at h
              · rename_i place ht
                split at h
                · cases h
                · rename_i inner hinner
                  cases h
                  obtain ⟨hroute, hpath⟩ := ih hinner
                  refine ⟨.step hfield ht hroute, ?_⟩
                  rw [← hpath]
                  rfl
              · cases h
              · cases h

theorem Catalog.property_route {path : Path} {p : ResolvedPath}
    (h : catalog.property schema path = .ok p) :
    catalog.Route schema p.through p.last ∧ p.path = path :=
  propertyFrom_route h

/-- The path resolver of orderings finds a route to a scalar. -/
theorem Catalog.keyFrom_route {whole : String} {path : Path} {p : ResolvedPath}
    (h : catalog.keyFrom whole schema path = .ok p) :
    catalog.Route schema p.through p.last ∧ p.last.type.isScalar = true := by
  induction path generalizing schema p with
  | nil => simp [keyFrom] at h
  | cons name rest ih =>
      cases hf : lookUp schema name with
      | error e => cases rest <;> simp [keyFrom, hf, bind, Except.bind] at h
      | ok field =>
          obtain ⟨hfield, rfl⟩ := lookUp_ok hf
          cases rest with
          | nil =>
              simp only [keyFrom, hf, bind, Except.bind] at h
              split at h
              · rename_i hs
                cases h
                exact ⟨.last hfield, hs⟩
              · cases h
          | cons next rest =>
              simp only [keyFrom, hf, bind, Except.bind] at h
              split at h
              · rename_i place ht
                split at h
                · cases h
                · rename_i inner hinner
                  cases h
                  obtain ⟨hroute, hs⟩ := ih hinner
                  exact ⟨.step hfield ht hroute, hs⟩
              · cases h

theorem Catalog.key_route {text : String} {p : ResolvedPath}
    (h : catalog.key schema text = .ok p) :
    catalog.Route schema p.through p.last ∧ p.last.type.isScalar = true :=
  keyFrom_route h

/-! ## Reading along a route -/

/-- The value at the end of a path, if every record on the way is there. -/
def Path.terminal? : Path → Record → Option Value
  | [], _ => none
  | [name], record => some (record.field name)
  | name :: next :: rest, record =>
    match record.field name with
    | .record inner => terminal? (next :: rest) inner
    | _ => none

/-- What can be read does not depend on the names before it, which only errors show. -/
theorem Path.readFrom_ok {path walked walked' : Path} {v : Value}
    (h : readFrom walked path record = .ok v) : readFrom walked' path record = .ok v := by
  induction path generalizing walked walked' record with
  | nil => simp [readFrom] at h
  | cons name rest ih =>
      cases rest with
      | nil => exact h
      | cons next rest =>
          simp only [readFrom] at h ⊢
          split at h
          · exact ih h
          · cases h
          · cases h

/-- A path into a record inside a record. -/
theorem Path.read_cons {name : String} {path : Path} {inner : Record} {v : Value}
    (hr : record.field name = .record inner) (h : path.read inner = .ok v) :
    Path.read (name :: path) record = .ok v := by
  cases path with
  | nil => simp [read, readFrom] at h
  | cons next rest =>
      simp only [read, readFrom, hr]
      exact readFrom_ok h

/-- None of the paths reads as null. -/
def Clear (record : Record) (paths : List Path) : Prop :=
  ∀ path ∈ paths, ∃ v : Value, path.read record = .ok v ∧ v.isNull = false

/-- One of the paths reads as null, and none before it does. -/
def Blocked (record : Record) : List Path → Prop
  | [] => False
  | path :: paths =>
    path.read record = .ok .null ∨
      ((∃ v : Value, path.read record = .ok v ∧ v.isNull = false) ∧ Blocked record paths)

theorem clear_nil : Clear record [] := fun _ h => by cases h

theorem clear_append {ps qs : List Path} (hp : Clear record ps) (hq : Clear record qs) :
    Clear record (ps ++ qs) := by
  intro path h
  rcases List.mem_append.mp h with h | h
  · exact hp path h
  · exact hq path h

theorem blocked_append_left {ps : List Path} (qs : List Path) (h : Blocked record ps) :
    Blocked record (ps ++ qs) := by
  induction ps with
  | nil => exact h.elim
  | cons path ps ih => exact h.imp id fun h => ⟨h.1, ih h.2⟩

theorem blocked_append_right {ps qs : List Path} (hp : Clear record ps) (hq : Blocked record qs) :
    Blocked record (ps ++ qs) := by
  induction ps with
  | nil => exact hq
  | cons path ps ih =>
      exact Or.inr ⟨hp path (by simp), ih fun q h => hp q (List.mem_cons_of_mem _ h)⟩

theorem Clear.within {name : String} {inner : Record} {paths : List Path}
    (hr : record.field name = .record inner) (h : Clear inner paths) :
    Clear record (paths.map (name :: ·)) := by
  intro path hp
  obtain ⟨q, hq, rfl⟩ := List.mem_map.mp hp
  obtain ⟨v, hv, hn⟩ := h q hq
  exact ⟨v, Path.read_cons hr hv, hn⟩

theorem Blocked.within {name : String} {inner : Record} {paths : List Path}
    (hr : record.field name = .record inner) (h : Blocked inner paths) :
    Blocked record (paths.map (name :: ·)) := by
  induction paths with
  | nil => exact h
  | cons path paths ih =>
      rcases h with h | ⟨⟨v, hv, hn⟩, h⟩
      · exact Or.inl (Path.read_cons hr h)
      · exact Or.inr ⟨⟨v, Path.read_cons hr hv, hn⟩, ih h⟩

/-- A first record that is there is no null in the way. -/
theorem clear_first {field : Field} {inner : Record} (hr : record.field field.name = .record inner) :
    Clear record (if field.nullable then [[field.name]] else []) := by
  intro path hp
  split at hp
  · rw [List.mem_singleton.mp hp]
    exact ⟨.record inner, by simp only [Path.read, Path.readFrom, hr], rfl⟩
  · cases hp

namespace ResolvedPath

theorem exists_path_cons (p : ResolvedPath) : ∃ name names, p.path = name :: names := by
  obtain ⟨through, last⟩ := p
  cases through <;> exact ⟨_, _, rfl⟩

/-- The names before a list of fields stand before each of its paths. -/
theorem nullablePaths_map (walked : Path) (fields : List Field) :
    nullablePaths walked fields = (nullablePaths [] fields).map (walked ++ ·) := by
  induction fields generalizing walked with
  | nil => rfl
  | cons field fields ih =>
      simp only [nullablePaths]
      rw [ih (walked ++ [field.name]), ih ([] ++ [field.name])]
      cases field.nullable <;> simp [List.map_map, Function.comp_def]

/-- The nullable records on a route: its first field, if it is one, and those of the rest. -/
theorem nullableRecords_cons (field last : Field) (through : List Field) :
    nullableRecords ⟨field :: through, last⟩ =
      (if field.nullable then [[field.name]] else []) ++
        (nullableRecords ⟨through, last⟩).map (field.name :: ·) := by
  simp only [nullableRecords, nullablePaths]
  rw [nullablePaths_map ([] ++ [field.name])]
  cases field.nullable <;> simp

end ResolvedPath

/-- What a path does on a record: none of its nullable records reads as null, and it ends at a value
    that its field admits; or one of them reads as null. -/
inductive Reach (catalog : Catalog) (record : Record) (p : ResolvedPath) : Prop
  | value (v : Value) (admits : p.last.Admits catalog v)
      (terminal : p.path.terminal? record = some v)
      (read : p.path.read record = .ok v) (readOrNull : p.path.readOrNull record = v)
      (clear : Clear record p.nullableRecords)
  | absent (terminal : p.path.terminal? record = none)
      (readOrNull : p.path.readOrNull record = .null) (blocked : Blocked record p.nullableRecords)

/-- **A resolved path reaches its field on a conforming record, unless a nullable record on the way
    is absent.** By induction on the route; a record that a field may not leave out is there. -/
theorem Catalog.Route.reach {p : ResolvedPath} (route : catalog.Route schema p.through p.last)
    (hr : record.Conforms catalog schema) : Reach catalog record p := by
  obtain ⟨through, last⟩ := p
  simp only at route
  induction route generalizing record with
  | last h => exact .value _ (hr _ _ h) rfl rfl rfl clear_nil
  | @step schema field last place through h ht rest ih =>
      obtain ⟨next, names, hnames⟩ := ResolvedPath.exists_path_cons ⟨through, last⟩
      have hpath :
          ResolvedPath.path ⟨field :: through, last⟩ = field.name :: next :: names := by
        rw [← hnames]
        rfl
      rcases hr _ _ h with ⟨hnull, habsent⟩ | htype
      · -- the first record is absent: its own path comes first among the nullable ones
        refine .absent ?_ ?_ ?_
        · rw [hpath]; simp only [Path.terminal?, habsent]
        · rw [hpath]; simp only [Path.readOrNull, habsent]
        · rw [ResolvedPath.nullableRecords_cons, hnull]
          exact Or.inl (by simp only [Path.read, Path.readFrom, habsent])
      · -- it is there, and the rest of the route goes on inside it
        rw [ht] at htype
        obtain ⟨inner, hinner, hconf⟩ := htype.exists_record
        have hhead := clear_first hinner
        cases ih hconf with
        | value v admits terminal read readOrNull clear =>
            refine .value v admits ?_ ?_ ?_ ?_
            · rw [hpath]; simp only [Path.terminal?, hinner, ← hnames, terminal]
            · rw [hpath, ← hnames]; exact Path.read_cons hinner read
            · rw [hpath]; simp only [Path.readOrNull, hinner, ← hnames, readOrNull]
            · rw [ResolvedPath.nullableRecords_cons]
              exact clear_append hhead (Clear.within hinner clear)
        | absent terminal readOrNull blocked =>
            refine .absent ?_ ?_ ?_
            · rw [hpath]; simp only [Path.terminal?, hinner, ← hnames, terminal]
            · rw [hpath]; simp only [Path.readOrNull, hinner, ← hnames, readOrNull]
            · rw [ResolvedPath.nullableRecords_cons]
              exact blocked_append_right hhead (Blocked.within hinner blocked)

/-! ## A recursive catalog -/

/-- People, who may have a home and may have friends. -/
def people : Catalog :=
  ⟨[⟨"Person",
      [⟨"id", .int, false⟩, ⟨"home", .record 1, true⟩, ⟨"friends", .list (.record 0), true⟩]⟩,
    ⟨"Home", [⟨"city", .string, true⟩]⟩]⟩

/-- Someone without a home, with a friend whose home is in no city. -/
def wanderer : Record :=
  [("id", .scalar (.number (.int 7))),
    ("friends", .list [.record [("id", .scalar (.number (.int 3))), ("home", .record [])]])]

theorem wanderer_conforms : wanderer.Conforms people people.root := by
  have hhome : Record.Conforms people (people.schema 1) [] := by
    apply Record.conforms_of_fields
    intro field hf
    cases List.mem_singleton.mp hf
    exact Or.inl ⟨rfl, rfl⟩
  have hfriend : Record.Conforms people (people.schema 0)
      [("id", .scalar (.number (.int 3))), ("home", .record [])] := by
    apply Record.conforms_of_fields
    intro field hf
    rcases List.mem_cons.mp hf with rfl | hf
    · exact Or.inr (.scalar rfl)
    · rcases List.mem_cons.mp hf with rfl | hf
      · exact Or.inr hhome.hasType
      · cases List.mem_singleton.mp hf
        exact Or.inl ⟨rfl, rfl⟩
  apply Record.conforms_of_fields
  intro field hf
  rcases List.mem_cons.mp hf with rfl | hf
  · exact Or.inr (.scalar rfl)
  · rcases List.mem_cons.mp hf with rfl | hf
    · exact Or.inl ⟨rfl, rfl⟩
    · cases List.mem_singleton.mp hf
      refine Or.inr (.list (by decide) ?_)
      intro item hi
      rw [List.mem_singleton.mp hi]
      exact hfriend.hasType

/-- Someone who lives in a city. -/
def settler : Record :=
  [("id", .scalar (.number (.int 4))), ("home", .record [("city", .scalar (.string "Oslo"))])]

theorem settler_conforms : settler.Conforms people people.root := by
  have hhome : Record.Conforms people (people.schema 1) [("city", .scalar (.string "Oslo"))] := by
    apply Record.conforms_of_fields
    intro field hf
    cases List.mem_singleton.mp hf
    exact Or.inr (.scalar rfl)
  apply Record.conforms_of_fields
  intro field hf
  rcases List.mem_cons.mp hf with rfl | hf
  · exact Or.inr (.scalar rfl)
  · rcases List.mem_cons.mp hf with rfl | hf
    · exact Or.inr hhome.hasType
    · cases List.mem_singleton.mp hf
      exact Or.inl ⟨rfl, rfl⟩

end RecordQuery
