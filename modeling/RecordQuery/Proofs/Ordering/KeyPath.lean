import Mathlib.Data.List.Infix
import RecordQuery.Proofs.Ordering.Clauses

/-!
# `Proofs.Ordering.KeyPath` — the keys of orderings and the paths of filters

Orderings and filters look a path up by a walk each, and each walk keeps books of its own. That of an
ordering notes a flag for every name and finds the records that may be null by their flags
afterwards; that of a filter collects the way to such a record when it passes one. They agree, and
so do the two readers: one reads null where the other says what is wrong.

## Contents
- `KeyPath`, `Catalog.keyWalk`, `PropertyPath`, `Catalog.propertyWalk`: the walks with their books.
- `Catalog.keyWalk_eq`, `Catalog.propertyWalk_eq`: they find what `Catalog.key` and
  `Catalog.property` find.
- `KeyPath.nullableFronts_keyPath`, `Catalog.Route.nullableRecords_eq`: the records on the way that
  may be null, by flags and by what the fields before the end of the path are.
- `Path.readOrNull_eq`, `Catalog.Route.read_error_iff`: the readers.
- `Catalog.resolvers_and_readers_agree`: **all of it for one path.**
-/

namespace RecordQuery

variable {catalog : Catalog} {schema : Schema} {record : Record}

/-! ## The walks -/

/-- What the walk of an ordering keeps of a key. -/
structure KeyPath where
  names : Path
  /-- For each name, whether its field may be null. -/
  flags : List Bool
  type : FieldType
  nullable : Bool
deriving DecidableEq

/-- The fronts of the key that lead to a record which may be null. The last name belongs to none. -/
def KeyPath.nullableFronts (key : KeyPath) : List Path :=
  ((List.range (key.names.length - 1)).filter fun i => key.flags.getD i false).map fun i =>
    key.names.take (i + 1)

/-- What the walk of a filter keeps of a path. -/
structure PropertyPath where
  names : Path
  field : Field
  /-- The fronts that lead to a record which may be null. -/
  nullableFronts : List Path
deriving DecidableEq

namespace Catalog

variable (catalog : Catalog)

/-- Walks the rest of a key whose text is `whole`; the names before it are `walked`, with their
flags, and `nullable` says whether any of these is set. -/
def keyWalk (whole : String) (walked : Path) (flags : List Bool) (nullable : Bool)
    (schema : Schema) : Path → Except SchemaError KeyPath
  | [] => .error (.invalidOrderingKey whole)
  | [name] => do
    let field ← lookUp schema name
    if field.type.isScalar then
      .ok ⟨walked ++ [field.name], flags ++ [field.nullable], field.type, nullable || field.nullable⟩
    else .error (.invalidOrderingKey whole)
  | name :: next :: rest => do
    let field ← lookUp schema name
    match field.type.place? with
    | some place =>
      keyWalk whole (walked ++ [field.name]) (flags ++ [field.nullable]) (nullable || field.nullable)
        (catalog.schema place) (next :: rest)
    | none => .error (.invalidOrderingKey whole)

/-- The key that a text with dots leads to. -/
def resolveKey (schema : Schema) (text : String) : Except SchemaError KeyPath :=
  catalog.keyWalk text [] [] false schema
    ((Text.splitWhere (· == '.') text.toList).map String.ofList)

/-- Walks the rest of a path, `walked` being the names before it and `fronts` the fronts of these
that lead to a record which may be null. -/
def propertyWalk (walked : Path) (fronts : List Path) (schema : Schema) :
    Path → Except SchemaError PropertyPath
  | [] => .error (.unknownProperty schema.name "")
  | [name] => do
    let field ← lookUp schema name
    .ok ⟨walked ++ [field.name], field, fronts⟩
  | name :: next :: rest => do
    let field ← lookUp schema name
    let walked := walked ++ [field.name]
    match field.type with
    | .record place =>
      propertyWalk walked (if field.nullable then fronts ++ [walked] else fronts)
        (catalog.schema place) (next :: rest)
    | .list _ => .error (.navigateThroughCollection (Path.text walked))
    | _ => .error (.notARecord (Path.text walked) next)

/-- The property that the names lead to. -/
def resolveProperty (schema : Schema) (names : Path) : Except SchemaError PropertyPath :=
  catalog.propertyWalk [] [] schema names

end Catalog

/-! ## What the walks find -/

namespace ResolvedPath

/-- For each name of the path, whether its field may be null. -/
def flags (p : ResolvedPath) : List Bool := (p.through ++ [p.last]).map (·.nullable)

/-- The path as an ordering keeps it. -/
def keyPath (p : ResolvedPath) : KeyPath := ⟨p.path, p.flags, p.last.type, p.nullable⟩

/-- The path as a filter keeps it. -/
def propertyPath (p : ResolvedPath) : PropertyPath := ⟨p.path, p.last, p.nullableRecords⟩

end ResolvedPath

namespace Catalog

/-- **The walk of an ordering finds what the resolver finds**, behind the names before it. By
induction on the names, which the books grow with. -/
theorem keyWalk_eq (whole : String) (walked path : Path) (flags : List Bool) (nullable : Bool) :
    catalog.keyWalk whole walked flags nullable schema path =
      (catalog.keyFrom whole schema path).map fun p =>
        ⟨walked ++ p.path, flags ++ p.flags, p.last.type, nullable || p.nullable⟩ := by
  induction path generalizing walked flags nullable schema with
  | nil => rfl
  | cons name rest ih =>
      cases hf : lookUp schema name with
      | error e => cases rest <;> simp only [keyWalk, keyFrom, hf, bind, Except.bind, Except.map]
      | ok field =>
          cases rest with
          | nil =>
              simp only [keyWalk, keyFrom, hf, bind, Except.bind]
              split <;> rfl
          | cons next rest =>
              simp only [keyWalk, keyFrom, hf, bind, Except.bind]
              cases field.type with
              | record place =>
                  simp only [FieldType.place?, ih]
                  cases catalog.keyFrom whole (catalog.schema place) (next :: rest) with
                  | error e => rfl
                  | ok p =>
                      simp [Except.map, ResolvedPath.path, ResolvedPath.flags, ResolvedPath.nullable,
                        Bool.or_assoc]
              | _ => rfl

theorem resolveKey_eq (text : String) :
    catalog.resolveKey schema text = (catalog.key schema text).map ResolvedPath.keyPath :=
  keyWalk_eq text [] _ [] false

theorem resolveKey_ok_iff {text : String} {key : KeyPath} :
    catalog.resolveKey schema text = .ok key ↔
      ∃ p, catalog.key schema text = .ok p ∧ p.keyPath = key := by
  rw [resolveKey_eq]
  cases catalog.key schema text <;> simp [Except.map]

/-- **The walk of a filter finds what the resolver finds**, behind the names before it. -/
theorem propertyWalk_eq (walked path : Path) (fronts : List Path) :
    catalog.propertyWalk walked fronts schema path =
      (catalog.propertyFrom walked schema path).map fun p =>
        ⟨walked ++ p.path, p.last, fronts ++ ResolvedPath.nullablePaths walked p.through⟩ := by
  induction path generalizing walked fronts schema with
  | nil => rfl
  | cons name rest ih =>
      cases hf : lookUp schema name with
      | error e =>
          cases rest <;> simp only [propertyWalk, propertyFrom, hf, bind, Except.bind, Except.map]
      | ok field =>
          obtain ⟨-, rfl⟩ := lookUp_ok hf
          cases rest with
          | nil =>
              simp only [propertyWalk, propertyFrom, hf, bind, Except.bind, Except.map,
                ResolvedPath.nullablePaths, List.append_nil]
              rfl
          | cons next rest =>
              simp only [propertyWalk, propertyFrom, hf, bind, Except.bind]
              cases field.type with
              | record place =>
                  simp only [ih]
                  cases catalog.propertyFrom (walked ++ [field.name]) (catalog.schema place)
                      (next :: rest) with
                  | error e => rfl
                  | ok p =>
                      cases hn : field.nullable <;>
                        simp [Except.map, ResolvedPath.path, ResolvedPath.nullablePaths, hn]
              | _ => rfl

theorem resolveProperty_eq (names : Path) :
    catalog.resolveProperty schema names =
      (catalog.property schema names).map ResolvedPath.propertyPath :=
  propertyWalk_eq [] names []

theorem resolveProperty_ok_iff {names : Path} {property : PropertyPath} :
    catalog.resolveProperty schema names = .ok property ↔
      ∃ p, catalog.property schema names = .ok p ∧ p.propertyPath = property := by
  rw [resolveProperty_eq]
  cases catalog.property schema names <;> simp [Except.map]

end Catalog

/-! ## Records that may be null -/

/-- **The flags of a path lead to the records on its way that may be null.** -/
theorem KeyPath.nullableFronts_keyPath (p : ResolvedPath) :
    p.keyPath.nullableFronts = p.nullableRecords := by
  obtain ⟨through, last⟩ := p
  induction through with
  | nil => rfl
  | cons field through ih =>
      obtain ⟨next, names, hnames⟩ := ResolvedPath.exists_path_cons ⟨through, last⟩
      have hpath :
          ResolvedPath.path ⟨field :: through, last⟩ = field.name :: next :: names := by
        rw [← hnames]
        rfl
      have hflags : ResolvedPath.flags ⟨field :: through, last⟩ =
          field.nullable :: ResolvedPath.flags ⟨through, last⟩ := rfl
      rw [ResolvedPath.nullableRecords_cons, ← ih]
      simp only [KeyPath.nullableFronts, ResolvedPath.keyPath, hpath, hnames, hflags,
        List.length_cons, Nat.add_sub_cancel, List.range_succ_eq_map]
      cases field.nullable <;>
        simp [List.filter_map, List.map_map, Function.comp_def]

/-- Whether the path leads to a field that may be null. -/
def Catalog.mayBeNull (catalog : Catalog) (schema : Schema) (path : Path) : Bool :=
  (catalog.fieldAt? schema path).any (·.nullable)

theorem Path.inits_dropLast_cons (name : String) (path : Path) :
    (List.inits (name :: path)).dropLast = [] :: path.inits.dropLast.map (name :: ·) := by
  have hne : path.inits.map (name :: ·) ≠ [] :=
    List.ne_nil_of_mem (List.mem_map_of_mem ((List.mem_inits [] path).mpr List.nil_prefix))
  rw [List.inits_cons, List.dropLast_cons_of_ne_nil hne, List.map_dropLast]

/-- Inside a record the same paths lead to fields that may be null. -/
theorem Catalog.filter_mayBeNull_within {field : Field} {place : Nat} {fronts : List Path}
    (h : schema.field? field.name = some field) (ht : field.type = .record place)
    (hne : ∀ front ∈ fronts, front ≠ []) :
    (fronts.map (field.name :: ·)).filter (catalog.mayBeNull schema) =
      (fronts.filter (catalog.mayBeNull (catalog.schema place))).map (field.name :: ·) := by
  rw [List.filter_map]
  refine congrArg _ (List.filter_congr fun front hfront => ?_)
  rw [Function.comp_apply, mayBeNull, fieldAt?_cons (hne front hfront) h ht]
  rfl

/-- **The records on the way that may be null** are the fronts of the path, short ones first, with a
field at their end that may be null. By induction on the route: a front is the first record alone, or
goes on inside it. -/
theorem Catalog.Route.nullableRecords_eq {through : List Field} {last : Field}
    (route : catalog.Route schema through last) :
    ResolvedPath.nullableRecords ⟨through, last⟩ =
      (ResolvedPath.path ⟨through, last⟩).inits.dropLast.filter (catalog.mayBeNull schema) := by
  induction route with
  | last _ => rfl
  | @step schema field last place through h ht rest ih =>
      obtain ⟨next, names, hnames⟩ := ResolvedPath.exists_path_cons ⟨through, last⟩
      have hpath :
          ResolvedPath.path ⟨field :: through, last⟩ = field.name :: next :: names := by
        rw [← hnames]
        rfl
      have hfirst : catalog.mayBeNull schema [field.name] = field.nullable := by
        rw [Catalog.mayBeNull, Catalog.fieldAt?, h]
        rfl
      have hne : ∀ front ∈ names.inits.dropLast.map (next :: ·), front ≠ [] :=
        List.forall_mem_map.mpr fun _ _ => List.cons_ne_nil _ _
      have hnil (inner : Schema) : ¬catalog.mayBeNull inner [] = true := Bool.false_ne_true
      rw [ResolvedPath.nullableRecords_cons, ih, hnames, hpath, Path.inits_dropLast_cons field.name,
        Path.inits_dropLast_cons next, List.filter_cons_of_neg (hnil _),
        List.filter_cons_of_neg (hnil _), List.map_cons, List.filter_cons,
        Catalog.filter_mayBeNull_within h ht hne, hfirst]
      cases field.nullable <;> rfl

/-- A resolved path may read as null if its field or a record on the way may be null. -/
theorem ResolvedPath.nullable_iff (p : ResolvedPath) :
    p.nullable = true ↔ p.last.nullable = true ∨ p.nullableRecords ≠ [] := by
  obtain ⟨through, last⟩ := p
  induction through with
  | nil => simp [ResolvedPath.nullable, ResolvedPath.nullableRecords, ResolvedPath.nullablePaths]
  | cons field through ih =>
      rw [ResolvedPath.nullableRecords_cons]
      simp only [ResolvedPath.nullable, List.any_cons, Bool.or_eq_true] at ih ⊢
      rw [or_assoc, ih]
      cases field.nullable <;> simp

/-! ## The readers -/

/-- **One reader reads null where the other fails**, whatever the record is. -/
theorem Path.readOrNull_eq (walked path : Path) (record : Record) :
    path.readOrNull record = (readFrom walked path record).toOption.getD .null := by
  induction path generalizing walked record with
  | nil => rfl
  | cons name rest ih =>
      cases rest with
      | nil => rfl
      | cons next rest =>
          rw [readOrNull, readFrom]
          cases record.field name with
          | record inner => exact ih (walked ++ [name]) inner
          | scalar s => cases s <;> rfl
          | list items => rfl

theorem Path.readOrNull_of_read {path : Path} {v : Value} (h : path.read record = .ok v) :
    path.readOrNull record = v := by
  rw [readOrNull_eq [] path record, show readFrom [] path record = .ok v from h]
  rfl

/-- Whether the path reads as null. -/
def Path.readsNull (record : Record) (path : Path) : Bool := (path.readOrNull record).isNull

/-- **On a conforming record a path cannot be read if a record on the way reads as null**, and then
the outermost of those is named. -/
theorem Catalog.Route.read_error_iff {p : ResolvedPath} {e : EvalError}
    (route : catalog.Route schema p.through p.last) (hr : record.Conforms catalog schema) :
    p.path.read record = .error e ↔
      ∃ front, p.nullableRecords.find? (Path.readsNull record) = some front ∧
        e = .nullReference front.text := by
  rcases route.readFrom_or_blocked [] hr with ⟨v, -, -, hread⟩ |
      ⟨front, path, back, hrecords, hclear, ⟨_, -, -, hnull⟩, -, hread⟩
  · have hclear := route.clear_of_readFrom hread
    have hfind : p.nullableRecords.find? (Path.readsNull record) = none := by
      refine List.find?_eq_none.mpr fun front hfront => ?_
      obtain ⟨w, hw, hnull⟩ := hclear front hfront
      rw [Path.readsNull, Path.readOrNull_of_read hw, hnull]
      exact Bool.false_ne_true
    refine iff_of_false ?_ ?_
    · rw [show p.path.read record = .ok v from hread]
      exact nofun
    · rintro ⟨front, hfront, -⟩
      cases hfind.symm.trans hfront
  · have hfind : p.nullableRecords.find? (Path.readsNull record) = some path := by
      refine List.find?_eq_some_iff_append.mpr ⟨?_, front, back, hrecords, fun earlier h => ?_⟩
      · rw [Path.readsNull, Path.readOrNull_of_read hnull]
        rfl
      · obtain ⟨w, hw, hnull⟩ := hclear earlier h
        rw [Path.readsNull, Path.readOrNull_of_read hw, hnull]
        rfl
    rw [show p.path.read record = .error (.nullReference path.text) from hread, hfind]
    constructor
    · intro h
      cases h
      exact ⟨path, rfl, rfl⟩
    · rintro ⟨front, hfront, rfl⟩
      cases hfront
      rfl

/-! ## The law -/

/-- A key is what its names lead to in a filter, if that is a scalar. -/
theorem Catalog.key_text_iff {names : Path} {p : ResolvedPath} (nonempty : names ≠ [])
    (undotted : ∀ name ∈ names, '.' ∉ name.toList) :
    catalog.key schema names.text = .ok p ↔
      catalog.property schema names = .ok p ∧ p.last.type.isScalar = true := by
  rw [Catalog.key, splitWhere_text nonempty undotted]
  exact Catalog.keyFrom_ok_iff

/-- **The resolvers and the readers agree.** An ordering resolves the names of a path with dots
between them just if a filter resolves the path to a scalar field. Then both keep the same names, the
same type and the same fronts that may be null, which are all the fronts before the end whose field
may be null, the outermost first; and the key may be null if its field may be or there is such a
front. Of any record the one reader reads what the other reads, and null where that fails. On a
conforming record it fails if a front that may be null reads as null, and names the outermost of
those. -/
theorem Catalog.resolvers_and_readers_agree {names : Path} (nonempty : names ≠ [])
    (undotted : ∀ name ∈ names, '.' ∉ name.toList) :
    (catalog.resolveKey schema names.text =
        (catalog.key schema names.text).map ResolvedPath.keyPath ∧
      catalog.resolveProperty schema names =
        (catalog.property schema names).map ResolvedPath.propertyPath) ∧
    ((∃ key, catalog.resolveKey schema names.text = .ok key) ↔
      ∃ property, catalog.resolveProperty schema names = .ok property ∧
        property.field.type.isScalar = true) ∧
    ∀ key property, catalog.resolveKey schema names.text = .ok key →
      catalog.resolveProperty schema names = .ok property →
      (key.names = names ∧ property.names = names ∧ key.type = property.field.type ∧
        key.nullableFronts = property.nullableFronts ∧
        property.nullableFronts = names.inits.dropLast.filter (catalog.mayBeNull schema) ∧
        (key.nullable = true ↔
          property.field.nullable = true ∨ property.nullableFronts ≠ [])) ∧
      ∀ record : Record,
        key.names.readOrNull record = (key.names.read record).toOption.getD .null ∧
        (record.Conforms catalog schema →
          (∀ e, key.names.read record = .error e ↔
            ∃ front, key.nullableFronts.find? (Path.readsNull record) = some front ∧
              e = .nullReference front.text) ∧
          ((∃ e, key.names.read record = .error e) ↔
            ∃ front ∈ key.nullableFronts, front.readsNull record = true)) := by
  refine ⟨⟨resolveKey_eq _, resolveProperty_eq _⟩, ?_, ?_⟩
  · constructor
    · rintro ⟨_, h⟩
      obtain ⟨p, hp, -⟩ := resolveKey_ok_iff.mp h
      obtain ⟨hproperty, hscalar⟩ := (key_text_iff nonempty undotted).mp hp
      exact ⟨p.propertyPath, resolveProperty_ok_iff.mpr ⟨p, hproperty, rfl⟩, hscalar⟩
    · rintro ⟨_, h, hscalar⟩
      obtain ⟨p, hproperty, rfl⟩ := resolveProperty_ok_iff.mp h
      have hp := (key_text_iff nonempty undotted).mpr ⟨hproperty, hscalar⟩
      exact ⟨p.keyPath, resolveKey_ok_iff.mpr ⟨p, hp, rfl⟩⟩
  · intro key property hkey hproperty
    -- both walks found the same path
    obtain ⟨p, hp, rfl⟩ := resolveKey_ok_iff.mp hkey
    obtain ⟨q, hq, rfl⟩ := resolveProperty_ok_iff.mp hproperty
    cases hq.symm.trans ((key_text_iff nonempty undotted).mp hp).1
    obtain ⟨route, rfl⟩ := property_route hq
    have hfronts := KeyPath.nullableFronts_keyPath p
    refine ⟨⟨rfl, rfl, rfl, hfronts, route.nullableRecords_eq, p.nullable_iff⟩, fun record => ?_⟩
    refine ⟨Path.readOrNull_eq [] p.path record, fun hr => ?_⟩
    have herror {e : EvalError} : p.path.read record = .error e ↔
        ∃ front, p.keyPath.nullableFronts.find? (Path.readsNull record) = some front ∧
          e = .nullReference front.text := by
      rw [hfronts]
      exact route.read_error_iff hr
    refine ⟨fun e => herror, ?_⟩
    calc (∃ e, p.path.read record = .error e)
      _ ↔ ∃ front, p.keyPath.nullableFronts.find? (Path.readsNull record) = some front := by
          simp only [herror]
          exact ⟨fun ⟨_, front, h, _⟩ => ⟨front, h⟩, fun ⟨front, h⟩ => ⟨_, front, h, rfl⟩⟩
      _ ↔ ∃ front ∈ p.keyPath.nullableFronts, front.readsNull record = true := by
          rw [← Option.isSome_iff_exists, List.find?_isSome]

/-- The way to the city of someone's home. -/
def homeCity : Path := ["home", "city"]

theorem Catalog.resolvers_and_readers_agree_wanderer :
    homeCity ≠ [] ∧ (∀ name ∈ homeCity, '.' ∉ name.toList) ∧
    (∃ key property, people.resolveKey people.root "home.city" = .ok key ∧
      people.resolveProperty people.root homeCity = .ok property ∧
      key.nullableFronts = [["home"]] ∧ property.nullableFronts = [["home"]]) ∧
    homeCity.readOrNull wanderer = .null ∧
    homeCity.read wanderer = .error (.nullReference "home") := by
  have hnonempty : homeCity ≠ [] := by decide
  have hundotted : ∀ name ∈ homeCity, '.' ∉ name.toList := by decide
  have htext : homeCity.text = "home.city" := by decide
  have hkey : people.resolveKey people.root homeCity.text =
      .ok ⟨homeCity, [true, true], .string, true⟩ := by rfl
  have hproperty : people.resolveProperty people.root homeCity =
      .ok ⟨homeCity, ⟨"city", .string, true⟩, [["home"]]⟩ := by rfl
  obtain ⟨-, -, hagree⟩ := Catalog.resolvers_and_readers_agree hnonempty hundotted
  obtain ⟨⟨-, -, -, hfronts, -, -⟩, hread⟩ := hagree _ _ hkey hproperty
  obtain ⟨hnull, hconforming⟩ := hread wanderer
  have herror : homeCity.read wanderer = .error (.nullReference "home") :=
    ((hconforming wanderer_conforms).1 _).mpr ⟨["home"], rfl, rfl⟩
  refine ⟨hnonempty, hundotted, ⟨_, _, htext ▸ hkey, hproperty, hfronts, rfl⟩, ?_, herror⟩
  rw [herror] at hnull
  exact hnull

end RecordQuery
