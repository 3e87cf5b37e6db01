import Mathlib.Data.List.Forall2
import RecordQuery.Ordering.SortOrder
import RecordQuery.Proofs.Schema.Lookup
import RecordQuery.Proofs.Text.Words

/-!
# `Proofs.Ordering.Clauses` — the texts of orderings

An ordering is written as clauses with commas between them, each a path and the word `asc` or `desc`,
and it is read so too. Reading is more liberal: there may be blanks around the words, and a path
alone is ascending. A path is a word here, so one whose fields have blanks or commas in their names
cannot be read back; all others can, fields of the name `asc` or `desc` among them.

## Contents
- `Catalog.Spells`, `Catalog.key_ok_iff`: the text of a resolved path.
- `SortOrder.Clause`, `SortOrder.readClause?_iff`: a path and a direction with blanks around them.
- `SortOrder.IsKeyOf`, `SortOrder.readClauses_iff`: clauses and keys.
- `SortOrder.Built`, `SortOrder.Built.isKeyOf`: orderings made step by step.
- `SortOrder.read_law`: **what is read, and that what is written is read back.**
-/

namespace RecordQuery

open Text

variable {catalog : Catalog} {schema : Schema}

/-! ## Paths -/

/-- The path leads through records to a scalar field, and the text has its names with dots between
them. -/
structure Catalog.Spells (catalog : Catalog) (schema : Schema) (text : String) (p : ResolvedPath) :
    Prop where
  route : catalog.Route schema p.through p.last
  scalar : p.last.type.isScalar = true
  no_dot : ∀ name ∈ p.path, '.' ∉ name.toList
  text_eq : p.text = text

/-- Names without dots are the pieces of the text that has them with dots between them. -/
theorem splitWhere_text {path : Path} (hne : path ≠ []) (hdot : ∀ name ∈ path, '.' ∉ name.toList) :
    (splitWhere (· == '.') path.text.toList).map String.ofList = path := by
  have hpieces : splitWhere (· == '.') path.text.toList = path.map String.toList := by
    rw [splitWhere_eq_splitOn, Path.text, String.toList_intercalate]
    refine List.splitOn_intercalate '.' ?_ ?_
    · exact List.forall_mem_map.mpr hdot
    · exact fun h => hne (List.map_eq_nil_iff.mp h)
  rw [hpieces, List.map_map]
  exact (List.map_congr_left fun name _ => String.ofList_toList).trans (List.map_id _)

/-- The pieces of a text, with dots between them. -/
theorem text_splitWhere (text : String) :
    Path.text ((splitWhere (· == '.') text.toList).map String.ofList) = text := by
  apply String.toList_inj.mp
  rw [Path.text, String.toList_intercalate, List.map_map, splitWhere_eq_splitOn]
  have hpieces : (text.toList.splitOn '.').map (String.toList ∘ String.ofList) =
      text.toList.splitOn '.' :=
    (List.map_congr_left fun cs _ => String.toList_ofList).trans (List.map_id _)
  rw [hpieces]
  exact List.intercalate_splitOn '.'

/-- **A key is found just where its text spells it.** -/
theorem Catalog.key_ok_iff {text : String} {p : ResolvedPath} :
    catalog.key schema text = .ok p ↔ catalog.Spells schema text p := by
  rw [Catalog.key, @Catalog.keyFrom_ok_iff catalog schema text []]
  constructor
  · rintro ⟨hproperty, hscalar⟩
    obtain ⟨hroute, hpath⟩ := Catalog.propertyFrom_route hproperty
    refine ⟨hroute, hscalar, ?_, ?_⟩
    · rw [hpath]
      refine List.forall_mem_map.mpr fun piece hpiece hmem => ?_
      rw [String.toList_ofList] at hmem
      have hno := not_mem_of_mem_splitWhere hpiece '.' hmem
      cases hno
    · rw [ResolvedPath.text, hpath, text_splitWhere]
  · rintro ⟨hroute, hscalar, hdot, rfl⟩
    obtain ⟨name, names, hnames⟩ := ResolvedPath.exists_path_cons p
    have hne : p.path ≠ [] := by
      rw [hnames]
      exact List.cons_ne_nil _ _
    rw [ResolvedPath.text, splitWhere_text hne hdot]
    exact ⟨hroute.propertyFrom_path [], hscalar⟩

/-! ## Clauses -/

namespace SortOrder

/-- The clause is a path and a direction with blanks around them, or a path alone, which is
ascending. -/
inductive Clause : List Char → List Char → Direction → Prop
  | path {left path right : List Char} (hleft : AllBlank left) (hpath : IsWord path)
      (hright : AllBlank right) : Clause (left ++ path ++ right) path .asc
  | directed {left path gap right : List Char} (direction : Direction) (hleft : AllBlank left)
      (hpath : IsWord path) (hgap : AllBlank gap) (hne : gap ≠ []) (hright : AllBlank right) :
      Clause (left ++ path ++ (gap ++ direction.text.toList ++ right)) path direction

theorem isWord_direction (direction : Direction) : IsWord direction.text.toList := by
  cases direction <;> decide

theorem readDirection?_iff {word : List Char} {direction : Direction} :
    readDirection? word = some direction ↔ word = direction.text.toList := by
  constructor
  · intro h
    unfold readDirection? at h
    split at h
    · cases h
      assumption
    · split at h
      · cases h
        assumption
      · cases h
  · rintro rfl
    cases direction <;> rfl

/-- **A clause is read as what it is written of.** -/
theorem readClause?_iff {clause path : List Char} {direction : Direction} :
    readClause? clause = some (path, direction) ↔ Clause clause path direction := by
  constructor
  · intro h
    unfold readClause? at h
    split at h
    · rename_i found hwords
      cases h
      obtain ⟨left, right, rfl, hleft, hpath, hright⟩ := words_eq_singleton_iff.mp hwords
      exact .path hleft hpath hright
    · rename_i found word hwords
      obtain ⟨found', hfound, hpair⟩ := Option.map_eq_some_iff.mp h
      cases hpair
      cases readDirection?_iff.mp hfound
      obtain ⟨left, gap, right, rfl, hleft, hpath, hgap, hne, -, hright⟩ :=
        words_eq_pair_iff.mp hwords
      exact .directed direction hleft hpath hgap hne hright
    · cases h
  · intro h
    cases h with
    | @path left _ right hleft hpath hright =>
        have hwords : words (left ++ path ++ right) = [path] :=
          words_eq_singleton_iff.mpr ⟨left, right, rfl, hleft, hpath, hright⟩
        rw [readClause?, hwords]
    | @directed left _ gap right _ hleft hpath hgap hne hright =>
        have hwords : words (left ++ path ++ (gap ++ direction.text.toList ++ right)) =
            [path, direction.text.toList] :=
          words_eq_pair_iff.mpr
            ⟨left, gap, right, rfl, hleft, hpath, hgap, hne, isWord_direction direction, hright⟩
        simp only [readClause?, hwords, readDirection?_iff.mpr rfl, Option.map_some]

/-- The clause has the key's path and its direction. -/
def IsKeyOf (catalog : Catalog) (schema : Schema) (clause : List Char) (key : SortKey) : Prop :=
  ∃ path, Clause clause path key.direction ∧ catalog.Spells schema (String.ofList path) key.path

/-- A clause is read by adding its key. -/
theorem readClauses_cons_iff {clause : List Char} {clauses : List (List Char)}
    {order result : SortOrder} :
    readClauses catalog schema order (clause :: clauses) = .ok result ↔
      ∃ key, IsKeyOf catalog schema clause key ∧
        readClauses catalog schema (order ++ [key]) clauses = .ok result := by
  rw [readClauses]
  cases hclause : readClause? clause with
  | none =>
      refine iff_of_false nofun ?_
      rintro ⟨key, ⟨path, hkey, -⟩, -⟩
      cases hclause.symm.trans (readClause?_iff.mpr hkey)
  | some found =>
      obtain ⟨path, direction⟩ := found
      dsimp only
      rw [andThen]
      constructor
      · intro h
        cases hp : catalog.key schema (String.ofList path) with
        | error e =>
            rw [hp] at h
            cases h
        | ok p =>
            rw [hp] at h
            exact ⟨⟨p, direction⟩, ⟨path, readClause?_iff.mp hclause, Catalog.key_ok_iff.mp hp⟩, h⟩
      · rintro ⟨key, ⟨path', hkey, hspells⟩, h⟩
        cases hclause.symm.trans (readClause?_iff.mpr hkey)
        rw [Catalog.key_ok_iff.mpr hspells]
        exact h

/-- **Reading clauses adds their keys**, one for each. -/
theorem readClauses_iff {clauses : List (List Char)} {order result : SortOrder} :
    readClauses catalog schema order clauses = .ok result ↔
      ∃ keys, result = order ++ keys ∧ List.Forall₂ (IsKeyOf catalog schema) clauses keys := by
  induction clauses generalizing order with
  | nil =>
      rw [readClauses]
      constructor
      · intro h
        cases h
        exact ⟨[], (List.append_nil _).symm, .nil⟩
      · rintro ⟨keys, rfl, h⟩
        cases h
        rw [List.append_nil]
  | cons clause clauses ih =>
      rw [readClauses_cons_iff]
      constructor
      · rintro ⟨key, hkey, h⟩
        obtain ⟨keys, rfl, hkeys⟩ := ih.mp h
        exact ⟨key :: keys, List.append_cons .. |>.symm, .cons hkey hkeys⟩
      · rintro ⟨_, rfl, h⟩
        cases h with
        | @cons _ key _ keys hkey hkeys =>
            exact ⟨key, hkey, ih.mpr ⟨keys, List.append_cons .., hkeys⟩⟩

/-- **What is read** are the keys of the clauses. -/
theorem read_iff {text : String} {order : SortOrder} :
    read catalog schema text = .ok order ↔
      ∃ clauses, clauses ≠ [] ∧ (∀ clause ∈ clauses, ',' ∉ clause) ∧
        text.toList = [','].intercalate clauses ∧
        List.Forall₂ (IsKeyOf catalog schema) clauses order := by
  rw [read, readClauses_iff, splitWhere_eq_splitOn]
  constructor
  · rintro ⟨keys, rfl, hkeys⟩
    refine ⟨_, List.splitOn_ne_nil _ _, ?_, (List.intercalate_splitOn ',').symm, hkeys⟩
    intro clause hclause hmem
    rw [← splitWhere_eq_splitOn] at hclause
    cases not_mem_of_mem_splitWhere hclause ',' hmem
  · rintro ⟨clauses, hne, hcomma, htext, hkeys⟩
    refine ⟨order, rfl, ?_⟩
    rwa [htext, List.splitOn_intercalate ',' hcomma hne]

/-! ## Orderings that are written -/

/-- A text that stands for itself among others: not empty, without commas and blanks. -/
structure IsPathText (text : String) : Prop where
  isWord : IsWord text.toList
  no_comma : ',' ∉ text.toList

/-- The orderings that are made step by step, their paths being words without commas. -/
inductive Built (catalog : Catalog) (schema : Schema) : SortOrder → Prop
  | empty : Built catalog schema []
  | andThen {order longer : SortOrder} {path : String} {direction : Direction}
      (built : Built catalog schema order) (text : IsPathText path)
      (ok : order.andThen catalog schema path direction = .ok longer) : Built catalog schema longer
  | append {order : SortOrder} {key : SortKey} {path : String} (built : Built catalog schema order)
      (text : IsPathText path) (resolved : catalog.key schema path = .ok key.path) :
      Built catalog schema (order ++ [key])
  | reversed {order : SortOrder} (built : Built catalog schema order) :
      Built catalog schema order.reversed

/-- The key's path is found where its own text leads, and the text is a word without commas. -/
def IsWritable (catalog : Catalog) (schema : Schema) (key : SortKey) : Prop :=
  IsPathText key.path.text ∧ catalog.Spells schema key.path.text key.path

theorem isWritable_of_key {key : SortKey} {path : String} (htext : IsPathText path)
    (h : catalog.key schema path = .ok key.path) : IsWritable catalog schema key := by
  have hspells := Catalog.key_ok_iff.mp h
  obtain rfl := hspells.text_eq
  exact ⟨htext, hspells⟩

/-- **Each step keeps the keys writable.** -/
theorem Built.isWritable {order : SortOrder} (h : Built catalog schema order) :
    ∀ key ∈ order, IsWritable catalog schema key := by
  induction h with
  | empty => exact nofun
  | @append order key path _ htext hkey ih =>
      exact List.forall_mem_append.mpr
        ⟨ih, List.forall_mem_singleton.mpr (isWritable_of_key htext hkey)⟩
  | @andThen order longer path direction _ htext hok ih =>
      rw [SortOrder.andThen] at hok
      cases hp : catalog.key schema path with
      | error e =>
          rw [hp] at hok
          cases hok
      | ok p =>
          rw [hp] at hok
          cases hok
          exact List.forall_mem_append.mpr
            ⟨ih, List.forall_mem_singleton.mpr (isWritable_of_key htext hp)⟩
  | reversed _ ih => exact List.forall_mem_map.mpr ih

/-- The clauses of the text of an ordering. All but the first start with a space. -/
def clauses : SortOrder → List (List Char)
  | [] => []
  | key :: keys => key.text.toList :: keys.map fun key => ' ' :: key.text.toList

theorem intercalate_space_cons (first : List Char) (rest : List (List Char)) :
    [','].intercalate ((' ' :: first) :: rest) = ' ' :: [','].intercalate (first :: rest) := by
  cases rest with
  | nil => rw [List.intercalate_singleton, List.intercalate_singleton]
  | cons second rest => rw [List.intercalate_cons_cons, List.intercalate_cons_cons]; rfl

/-- The space after a comma belongs to the clause after it. -/
theorem intercalate_comma_space (first : List Char) (rest : List (List Char)) :
    [',', ' '].intercalate (first :: rest) =
      [','].intercalate (first :: rest.map (' ' :: ·)) := by
  induction rest generalizing first with
  | nil => rw [List.map_nil, List.intercalate_singleton, List.intercalate_singleton]
  | cons second rest ih =>
      rw [List.map_cons, List.intercalate_cons_cons, List.intercalate_cons_cons, ih,
        intercalate_space_cons, List.append_assoc, List.append_assoc]
      rfl

theorem toList_text (order : SortOrder) : order.text.toList = [','].intercalate order.clauses := by
  rw [text, String.toList_intercalate]
  cases order with
  | nil => rfl
  | cons key keys =>
      have hcomma : ", ".toList = [',', ' '] := rfl
      rw [List.map_cons, List.map_cons, hcomma, intercalate_comma_space, List.map_map, List.map_map]
      rfl

/-- A key that can be written is the key of its text. -/
theorem IsWritable.isKeyOf {key : SortKey} {blanks : List Char} (h : IsWritable catalog schema key)
    (hblanks : AllBlank blanks) : IsKeyOf catalog schema (blanks ++ key.text.toList) key := by
  obtain ⟨htext, hspells⟩ := h
  have hspace : AllBlank [' '] := List.forall_mem_singleton.mpr rfl
  have hclause : Clause (blanks ++ key.path.text.toList ++
      ([' '] ++ key.direction.text.toList ++ [])) key.path.text.toList key.direction :=
    .directed key.direction hblanks htext.isWord hspace (List.cons_ne_nil _ _) nofun
  refine ⟨key.path.text.toList, ?_, by rwa [String.ofList_toList]⟩
  have hkey : key.text.toList = key.path.text.toList ++ ([' '] ++ key.direction.text.toList) := by
    rw [SortKey.text, String.toList_append, String.toList_append, List.append_assoc]
    rfl
  rwa [List.append_nil, List.append_assoc, ← hkey] at hclause

theorem IsWritable.no_comma {key : SortKey} (h : IsWritable catalog schema key) :
    ',' ∉ key.text.toList := by
  have hdirection : ',' ∉ key.direction.text.toList := by cases key.direction <;> decide
  have hspace : ',' ∉ " ".toList := by decide
  rw [SortKey.text, String.toList_append, String.toList_append]
  simp only [List.mem_append, h.1.no_comma, hspace, hdirection, or_false, not_false_eq_true]

/-- **The text of an ordering is read back.** -/
theorem Built.read_text {order : SortOrder} (h : Built catalog schema order) (hne : order ≠ []) :
    read catalog schema order.text = .ok order := by
  obtain ⟨key, keys, rfl⟩ := List.exists_cons_of_ne_nil hne
  obtain ⟨hkey, hkeys⟩ := List.forall_mem_cons.mp h.isWritable
  have hcomma : ∀ clause ∈ clauses (key :: keys), ',' ∉ clause := by
    refine List.forall_mem_cons.mpr ⟨hkey.no_comma, List.forall_mem_map.mpr ?_⟩
    intro other hother hmem
    exact (hkeys other hother).no_comma ((List.mem_cons.mp hmem).resolve_left (by decide))
  have hfirst : IsKeyOf catalog schema key.text.toList key :=
    @IsWritable.isKeyOf _ _ _ [] hkey nofun
  have hspace : AllBlank [' '] := List.forall_mem_singleton.mpr rfl
  have hrest : List.Forall₂ (IsKeyOf catalog schema) (keys.map fun key => ' ' :: key.text.toList)
      keys :=
    List.forall₂_map_left_iff.mpr
      (List.forall₂_same.mpr fun other hother => (hkeys other hother).isKeyOf hspace)
  exact read_iff.mpr
    ⟨clauses (key :: keys), List.cons_ne_nil _ _, hcomma, toList_text _, .cons hfirst hrest⟩

/-! ## The law -/

/-- **Reading and writing orderings.** A text is read just if each of its clauses, which are what
commas separate, is a path to a scalar field, alone or with `asc` or `desc` after it, and blanks
around the words; the ordering has one key for each clause, in their order. The text of an ordering
that was made step by step from paths without blanks and commas is read as that ordering, whatever
the fields are called. -/
theorem read_law (catalog : Catalog) (schema : Schema) :
    (∀ (text : String) (order : SortOrder), read catalog schema text = .ok order ↔
      ∃ clauses, clauses ≠ [] ∧ (∀ clause ∈ clauses, ',' ∉ clause) ∧
        text.toList = [','].intercalate clauses ∧
        List.Forall₂ (IsKeyOf catalog schema) clauses order) ∧
    ∀ order : SortOrder, Built catalog schema order → order ≠ [] →
      read catalog schema order.text = .ok order :=
  ⟨fun _ _ => read_iff, fun _ h hne => h.read_text hne⟩

/-- A schema whose fields are called like the directions. -/
def ledger : Schema := ⟨"Ledger", [⟨"asc", .int, false⟩, ⟨"desc", .string, true⟩]⟩

theorem read_law_ledger : ∃ order, Built ⟨[]⟩ ledger order ∧ order ≠ [] ∧
    order.text = "desc asc, asc desc" ∧
    read ⟨[]⟩ ledger "desc asc, asc desc" = .ok order ∧
    read ⟨[]⟩ ledger " desc , asc  desc" = .ok order := by
  have hdesc : IsPathText "desc" := ⟨by decide, by decide⟩
  have hasc : IsPathText "asc" := ⟨by decide, by decide⟩
  have hbuilt : Built ⟨[]⟩ ledger
      (reversed [⟨⟨[], ⟨"desc", .string, true⟩⟩, .desc⟩] ++ [⟨⟨[], ⟨"asc", .int, false⟩⟩, .desc⟩]) :=
    .append (.reversed (.andThen .empty hdesc rfl)) hasc rfl
  obtain ⟨-, hread⟩ := read_law ⟨[]⟩ ledger
  exact ⟨_, hbuilt, List.cons_ne_nil _ _, rfl, hread _ hbuilt (List.cons_ne_nil _ _), rfl⟩

end SortOrder
end RecordQuery
