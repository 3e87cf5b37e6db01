import RecordQuery.Proofs.Filter.Meaning

/-!
# `Proofs.Schema.Lookup` — the field at the end of a path

A path has a field at its end (`Catalog.fieldAt?`) just where the resolver of filters finds it. On a
conforming record such a path reads as what the field admits, unless a record on the way is null.

## Contents
- `Route.fieldAt?`, `route_of_fieldAt?`, `Route.propertyFrom_path`: resolved paths and their fields.
- `Catalog.keyFrom_ok_iff`: what the resolver of orderings finds.
- `Path.NullAt`: a path to a nullable field that is null.
- `Route.fieldAt?_of_mem`, `Catalog.Unbroken`, `Catalog.Present`: the records on the way that may be
  null, and paths without any.
- `Route.readFrom_or_blocked`, `Catalog.read_or_blocked`: what reading a path gives, or the outermost
  null in its way.
- `Route.clear_of_readFrom`: what can be read has no null in its way.
-/

namespace RecordQuery

variable {catalog : Catalog} {schema : Schema} {record : Record}

/-! ## Fields -/

theorem Catalog.Route.fieldAt? {p : ResolvedPath}
    (route : catalog.Route schema p.through p.last) :
    catalog.fieldAt? schema p.path = some p.last := by
  obtain ⟨through, last⟩ := p
  simp only at route
  induction route with
  | last h => exact h
  | @step schema field last place through h ht rest ih =>
      obtain ⟨name, type, nullable⟩ := field
      simp only at h ht
      subst ht
      cases through <;> simpa [ResolvedPath.path, Catalog.fieldAt?, h] using ih

theorem Catalog.elementSchemaAt?_of_fieldAt? {path : Path} {field : Field} {place : Nat}
    (at_end : catalog.fieldAt? schema path = some field)
    (list : field.type = .list (.record place)) :
    catalog.elementSchemaAt? schema path = some (catalog.schema place) := by
  unfold Catalog.elementSchemaAt?
  rw [at_end]
  obtain ⟨name, type, nullable⟩ := field
  simp only at list
  rw [list]

/-- A path with a field at its end is resolved. -/
theorem Catalog.propertyFrom_of_fieldAt? {path : Path} {field : Field} (walked : Path)
    (h : catalog.fieldAt? schema path = some field) :
    ∃ p, catalog.propertyFrom walked schema path = .ok p ∧ p.last = field := by
  induction path generalizing schema walked with
  | nil => cases h
  | cons name rest ih =>
      cases rest with
      | nil =>
          refine ⟨⟨[], field⟩, ?_, rfl⟩
          have h : schema.field? name = some field := h
          simp only [propertyFrom, lookUp, h, bind, Except.bind]
      | cons next rest =>
          rw [Catalog.fieldAt?] at h
          split at h
          · rename_i fieldName place nullable hfield
            obtain ⟨p, hp, hlast⟩ := ih (walked ++ [name]) h
            refine ⟨{ p with through := ⟨fieldName, .record place, nullable⟩ :: p.through }, ?_, hlast⟩
            simp only [propertyFrom, lookUp, hfield, bind, Except.bind, hp]
          · cases h

theorem Catalog.route_of_fieldAt? {path : Path} {field : Field}
    (h : catalog.fieldAt? schema path = some field) :
    ∃ p, catalog.property schema path = .ok p ∧ catalog.Route schema p.through p.last ∧
      p.path = path ∧ p.last = field := by
  obtain ⟨p, hp, hlast⟩ := Catalog.propertyFrom_of_fieldAt? [] h
  obtain ⟨hroute, hpath⟩ := Catalog.property_route hp
  exact ⟨p, hp, hroute, hpath, hlast⟩

/-- A field inside a record inside a record. -/
theorem Catalog.fieldAt?_cons {field : Field} {place : Nat} {path : Path} (hpath : path ≠ [])
    (h : schema.field? field.name = some field) (ht : field.type = .record place) :
    catalog.fieldAt? schema (field.name :: path) =
      catalog.fieldAt? (catalog.schema place) path := by
  obtain ⟨name, type, nullable⟩ := field
  simp only at h ht
  subst ht
  cases path with
  | nil => exact absurd rfl hpath
  | cons next rest => simp only [Catalog.fieldAt?, h]

/-- A route is resolved by its names. -/
theorem Catalog.Route.propertyFrom_path {through : List Field} {last : Field} (walked : Path)
    (route : catalog.Route schema through last) :
    catalog.propertyFrom walked schema (ResolvedPath.path ⟨through, last⟩) = .ok ⟨through, last⟩ := by
  induction route generalizing walked with
  | @last schema field h =>
      show catalog.propertyFrom walked schema [field.name] = _
      rw [propertyFrom, lookUp, h]
      rfl
  | @step schema field last place through h ht rest ih =>
      obtain ⟨next, names, hnames⟩ := ResolvedPath.exists_path_cons ⟨through, last⟩
      have hpath : ResolvedPath.path ⟨field :: through, last⟩ = field.name :: next :: names := by
        rw [← hnames]
        rfl
      have ih := ih (walked ++ [field.name])
      rw [hnames] at ih
      simp only [hpath, propertyFrom, lookUp, h, bind, Except.bind, ht, ih]

/-! ## Ordering keys -/

/-- **An ordering key is a path of a filter that ends at a scalar.** The two resolvers differ in
    their errors. -/
theorem Catalog.keyFrom_ok_iff {whole : String} {walked path : Path} {p : ResolvedPath} :
    catalog.keyFrom whole schema path = .ok p ↔
      catalog.propertyFrom walked schema path = .ok p ∧ p.last.type.isScalar = true := by
  induction path generalizing schema walked p with
  | nil => simp [keyFrom, propertyFrom]
  | cons name rest ih =>
      cases hfield : lookUp schema name with
      | error e => cases rest <;> simp [keyFrom, propertyFrom, hfield, bind, Except.bind]
      | ok field =>
          cases rest with
          | nil =>
              simp only [keyFrom, propertyFrom, hfield, bind, Except.bind, Except.ok.injEq]
              constructor
              · intro h
                split at h
                · cases h
                  exact ⟨rfl, ‹_›⟩
                · cases h
              · rintro ⟨rfl, hscalar⟩
                exact if_pos hscalar
          | cons next rest =>
              simp only [keyFrom, propertyFrom, hfield, bind, Except.bind]
              cases field.type with
              | record place =>
                  have hinner {q : ResolvedPath} :=
                    @ih (catalog.schema place) (walked ++ [name]) q
                  dsimp only
                  constructor
                  · intro h
                    split at h
                    · cases h
                    · rename_i q hq
                      cases h
                      obtain ⟨hq, hscalar⟩ := hinner.mp hq
                      exact ⟨by rw [hq], hscalar⟩
                  · rintro ⟨h, hscalar⟩
                    split at h
                    · cases h
                    · rename_i q hq
                      cases h
                      rw [hinner.mpr ⟨hq, hscalar⟩]
              | _ => simp

/-! ## Nulls -/

/-- The path leads to a nullable field that is null. -/
def Path.NullAt (catalog : Catalog) (schema : Schema) (record : Record) (path : Path) : Prop :=
  ∃ field, catalog.fieldAt? schema path = some field ∧ field.nullable = true ∧
    path.read record = .ok .null

theorem Path.NullAt.ne_nil {path : Path} (h : path.NullAt catalog schema record) : path ≠ [] := by
  rintro rfl
  obtain ⟨field, hfield, -⟩ := h
  cases hfield

theorem Path.NullAt.within {field : Field} {place : Nat} {inner : Record} {path : Path}
    (hfield : schema.field? field.name = some field) (ht : field.type = .record place)
    (hr : record.field field.name = .record inner)
    (h : path.NullAt catalog (catalog.schema place) inner) :
    Path.NullAt catalog schema record (field.name :: path) := by
  have hpath := h.ne_nil
  obtain ⟨last, hlast, hnull, hread⟩ := h
  refine ⟨last, ?_, hnull, Path.read_cons hr hread⟩
  rw [Catalog.fieldAt?_cons hpath hfield ht]
  exact hlast

/-- The records on the way that may be null are fields before the end of the path. -/
theorem Catalog.Route.fieldAt?_of_mem {through : List Field} {last : Field} {path : Path}
    (route : catalog.Route schema through last)
    (h : path ∈ ResolvedPath.nullableRecords ⟨through, last⟩) :
    (∃ rest, rest ≠ [] ∧ ResolvedPath.path ⟨through, last⟩ = path ++ rest) ∧
      ∃ field, catalog.fieldAt? schema path = some field ∧ field.nullable = true := by
  induction route generalizing path with
  | last => cases h
  | @step schema field last place through hfield ht rest ih =>
      obtain ⟨next, names, hnames⟩ := ResolvedPath.exists_path_cons ⟨through, last⟩
      have hpath : ResolvedPath.path ⟨field :: through, last⟩ =
          field.name :: ResolvedPath.path ⟨through, last⟩ := rfl
      rw [ResolvedPath.nullableRecords_cons] at h
      rcases List.mem_append.mp h with h | h
      · -- the first record itself
        split at h
        · rename_i hnull
          cases List.mem_singleton.mp h
          refine ⟨⟨ResolvedPath.path ⟨through, last⟩, ?_, hpath⟩, field, hfield, hnull⟩
          rw [hnames]
          exact List.cons_ne_nil _ _
        · cases h
      · obtain ⟨path, hp, rfl⟩ := List.mem_map.mp h
        obtain ⟨⟨rest, hrest, heq⟩, found, hfound, hnull⟩ := ih hp
        refine ⟨⟨rest, hrest, by rw [hpath, heq]; rfl⟩, found, ?_, hnull⟩
        rw [Catalog.fieldAt?_cons _ hfield ht]
        · exact hfound
        · rintro rfl
          cases hfound

/-- No field before the end of the path may be null. -/
def Catalog.Unbroken (catalog : Catalog) (schema : Schema) (path : Path) : Prop :=
  ∀ front back, path = front ++ back → back ≠ [] →
    ∀ field, catalog.fieldAt? schema front = some field → field.nullable = false

/-- No field before the end of the path may be null, nor may the one at its end. -/
def Catalog.Present (catalog : Catalog) (schema : Schema) (path : Path) : Prop :=
  catalog.Unbroken schema path ∧
    ∀ field, catalog.fieldAt? schema path = some field → field.nullable = false

/-- **A resolved path reads as what its field admits, or meets the outermost null on its way.** By
    induction on the route, `walked` being the names before it. -/
theorem Catalog.Route.readFrom_or_blocked {through : List Field} {last : Field} (walked : Path)
    (route : catalog.Route schema through last) (hr : record.Conforms catalog schema) :
    (∃ v, last.Admits catalog v ∧
      Path.terminal? (ResolvedPath.path ⟨through, last⟩) record = some v ∧
      Path.readFrom walked (ResolvedPath.path ⟨through, last⟩) record = .ok v) ∨
    ∃ front path back, ResolvedPath.nullableRecords ⟨through, last⟩ = front ++ path :: back ∧
      Clear record front ∧ path.NullAt catalog schema record ∧
      Path.terminal? (ResolvedPath.path ⟨through, last⟩) record = none ∧
      Path.readFrom walked (ResolvedPath.path ⟨through, last⟩) record =
        .error (.nullReference (Path.text (walked ++ path))) := by
  induction route generalizing record walked with
  | last h => exact Or.inl ⟨_, hr _ _ h, rfl, rfl⟩
  | @step schema field last place through h ht rest ih =>
      obtain ⟨next, names, hnames⟩ := ResolvedPath.exists_path_cons ⟨through, last⟩
      have hpath :
          ResolvedPath.path ⟨field :: through, last⟩ = field.name :: next :: names := by
        rw [← hnames]
        rfl
      rw [hpath, ResolvedPath.nullableRecords_cons]
      rcases hr _ _ h with ⟨hnull, habsent⟩ | htype
      · -- the first record is the outermost null
        refine Or.inr ⟨[], [field.name], (ResolvedPath.nullableRecords ⟨through, last⟩).map
          (field.name :: ·), ?_, clear_nil, ⟨field, h, hnull, ?_⟩, ?_, ?_⟩
        · rw [hnull]
          rfl
        · simp only [Path.read, Path.readFrom, habsent]
        · simp only [Path.terminal?, habsent]
        · simp only [Path.readFrom, habsent]
      · rw [ht] at htype
        obtain ⟨inner, hinner, hconf⟩ := htype.exists_record
        rcases ih (walked ++ [field.name]) hconf with ⟨v, hv, hterminal, hread⟩ |
            ⟨front, path, back, hrecords, hclear, hnull, hterminal, hread⟩
        · rw [hnames] at hterminal hread
          refine Or.inl ⟨v, hv, ?_, ?_⟩
          · simp only [Path.terminal?, hinner]
            exact hterminal
          · simp only [Path.readFrom, hinner]
            exact hread
        · refine Or.inr ⟨(if field.nullable then [[field.name]] else []) ++
            front.map (field.name :: ·), field.name :: path, back.map (field.name :: ·), ?_,
            clear_append (clear_first hinner) (Clear.within hinner hclear),
            hnull.within h ht hinner, ?_, ?_⟩
          · rw [hrecords, List.map_append, List.map_cons, List.append_assoc]
          · rw [hnames] at hterminal
            simp only [Path.terminal?, hinner]
            exact hterminal
          · rw [hnames] at hread
            simp only [Path.readFrom, hinner]
            rw [hread, List.append_assoc]
            rfl

/-- **What can be read has no null on its way**, whatever the record is. By induction on the route,
    `walked` being the names before it. -/
theorem Catalog.Route.clear_of_readFrom {through : List Field} {last : Field} {walked : Path}
    {v : Value} (route : catalog.Route schema through last)
    (h : Path.readFrom walked (ResolvedPath.path ⟨through, last⟩) record = .ok v) :
    Clear record (ResolvedPath.nullableRecords ⟨through, last⟩) := by
  induction route generalizing record walked with
  | last _ => exact clear_nil
  | @step schema field last place through _ _ rest ih =>
      obtain ⟨next, names, hnames⟩ := ResolvedPath.exists_path_cons ⟨through, last⟩
      have hpath :
          ResolvedPath.path ⟨field :: through, last⟩ = field.name :: next :: names := by
        rw [← hnames]
        rfl
      rw [hpath, Path.readFrom] at h
      rw [ResolvedPath.nullableRecords_cons]
      split at h
      · rename_i inner hinner
        rw [← hnames] at h
        exact clear_append (clear_first hinner) (Clear.within hinner (ih h))
      · cases h
      · cases h

/-- What reading a path with a field at its end gives. -/
theorem Catalog.read_or_blocked {path : Path} {field : Field}
    (at_end : catalog.fieldAt? schema path = some field) (hr : record.Conforms catalog schema) :
    (∃ v, field.Admits catalog v ∧ path.terminal? record = some v ∧ path.read record = .ok v) ∨
      ∃ q : Path, q.NullAt catalog schema record ∧ path.terminal? record = none ∧
        path.read record = .error (.nullReference q.text) := by
  obtain ⟨p, -, route, rfl, rfl⟩ := Catalog.route_of_fieldAt? at_end
  rcases route.readFrom_or_blocked [] hr with hvalue | ⟨_, q, _, -, -, hnull, hterminal, hread⟩
  · exact Or.inl hvalue
  · exact Or.inr ⟨q, hnull, hterminal, hread⟩

end RecordQuery
