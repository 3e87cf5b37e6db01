import RecordQuery.Schema.ResolvedPath
import RecordQuery.Value.Read

/-!
# `RecordQuery.Ordering.SortOrder` — the order that records are listed in

An ordering is a list of keys, the first of which decides unless it ties. Under an ascending key
null comes before every value, under a descending key after it. Values that do not compare tie.
-/

namespace RecordQuery

inductive Direction where
  | asc
  | desc
deriving DecidableEq, Inhabited

namespace Direction

def reversed : Direction → Direction
  | asc => desc
  | desc => asc

/-- The order of two values in this direction. -/
def apply : Direction → Ordering → Ordering
  | asc, order => order
  | desc, order => order.swap

def text : Direction → String
  | asc => "asc"
  | desc => "desc"

end Direction

/-- What a value of a key may be. -/
structure KeyType where
  type : FieldType
  nullable : Bool
deriving DecidableEq, Inhabited

structure SortKey where
  path : ResolvedPath
  direction : Direction
deriving DecidableEq, Inhabited

namespace SortKey

def reversed (key : SortKey) : SortKey := { key with direction := key.direction.reversed }

def keyType (key : SortKey) : KeyType := ⟨key.path.last.type, key.path.nullable⟩

/-- What a record has for the key. -/
def read (key : SortKey) (record : Record) : Value := key.path.path.readOrNull record

/-- The order of two records under the key alone. -/
def compare (key : SortKey) (a b : Record) : Ordering :=
  key.direction.apply (((key.read a).compare? (key.read b)).getD .eq)

def text (key : SortKey) : String := key.path.text ++ " " ++ key.direction.text

end SortKey

abbrev SortOrder := List SortKey

namespace SortOrder

def text (order : SortOrder) : String := String.intercalate ", " (order.map SortKey.text)

/-- The keys as a list of quoted texts. -/
def inspect (order : SortOrder) : String :=
  "[" ++ String.intercalate ", " (order.map fun key => Text.escaped key.text) ++ "]"

/-- The opposite order. -/
def reversed (order : SortOrder) : SortOrder := order.map SortKey.reversed

def keyTypes (order : SortOrder) : List KeyType := order.map SortKey.keyType

/-- What a record has for the keys; a record or a list among it counts as null. -/
def keyValues (order : SortOrder) (record : Record) : List Scalar :=
  order.map fun key => (key.read record).scalar?.getD .null

/-- The order of two records: that of the first key under which they differ. -/
def compare : SortOrder → Record → Record → Ordering
  | [], _, _ => .eq
  | key :: keys, a, b => (key.compare a b).then (compare keys a b)

/-! ## Reading -/

section Reading

open Text

variable (catalog : Catalog) (schema : Schema)

/-- Adds a key for a dotted path. -/
def andThen (order : SortOrder) (path : String) (direction : Direction) :
    Except SchemaError SortOrder :=
  match catalog.key schema path with
  | .ok path => .ok (order ++ [⟨path, direction⟩])
  | .error e => .error e

/-- The direction that a word stands for. -/
def readDirection? (word : List Char) : Option Direction :=
  if word = ['a', 's', 'c'] then some .asc
  else if word = ['d', 'e', 's', 'c'] then some .desc
  else none

/-- The path and the direction of a clause. -/
def readClause? (clause : List Char) : Option (List Char × Direction) :=
  match words clause with
  | [path] => some (path, .asc)
  | [path, word] => (readDirection? word).map (path, ·)
  | _ => none

/-- Reads clauses and adds a key for each. -/
def readClauses (order : SortOrder) : List (List Char) → Except SchemaError SortOrder
  | [] => .ok order
  | clause :: clauses =>
    match readClause? clause with
    | none => .error (.invalidOrderingKey (String.ofList (trim clause)))
    | some (path, direction) =>
      match andThen catalog schema order (String.ofList path) direction with
      | .ok order => readClauses order clauses
      | .error e => .error e

/-- Reads an ordering: clauses with commas between them, each a path and, if it likes, `asc` or
`desc`. -/
def read (text : String) : Except SchemaError SortOrder :=
  readClauses catalog schema [] (splitWhere (· == ',') text.toList)

end Reading

/-! ## Sorting -/

section Sorting

variable {α : Type} (compare : α → α → Ordering)

/-- Puts an item into a list that is sorted from the end to the start, after those it ties with. -/
def insertBack (x : α) : List α → List α
  | [] => [x]
  | y :: ys => if compare x y = .lt then y :: insertBack x ys else x :: y :: ys

/-- The items in order; those that tie stay as they stood. A comparison that is not transitive on the
items has no such order, and nothing is promised of what becomes of them then. -/
def stableSort (items : List α) : List α :=
  (items.foldl (fun sorted x => insertBack compare x sorted) []).reverse

end Sorting
end SortOrder
end RecordQuery
