import RecordQuery.Ordering.SortOrder
import RecordQuery.Predicate.Evaluate

/-!
# `RecordQuery.Query.MemoryQuery` — queries over a list

A query filters, sorts and limits the items of a list; `view` says what record an item is. It is
built step by step and runs at the end.
-/

namespace RecordQuery

structure MemoryQuery (α : Type) where
  items : List α
  view : α → Record
  predicates : List Predicate
  keys : SortOrder
  limit : Option Nat

namespace MemoryQuery

variable {α : Type} (query : MemoryQuery α)

/-- The query for all items, as they stand. -/
def ofItems (view : α → Record) (items : List α) : MemoryQuery α := ⟨items, view, [], [], none⟩

/-! ## Steps -/

def filter (predicate : Predicate) : MemoryQuery α :=
  { query with predicates := query.predicates ++ [predicate] }

/-- Sorts by a key alone. -/
def orderBy (key : SortKey) : MemoryQuery α := { query with keys := [key] }

/-- Sorts by another key after those before. -/
def thenBy (key : SortKey) : MemoryQuery α := { query with keys := query.keys ++ [key] }

/-- Sorts by an ordering; nothing if it has no keys. -/
def orderByAll? : SortOrder → Option (MemoryQuery α)
  | [] => none
  | key :: keys => some (keys.foldl thenBy (query.orderBy key))

/-- Keeps at most so many items. -/
def take (count : Nat) : MemoryQuery α :=
  { query with limit := some (match query.limit with | none => count | some n => min n count) }

/-! ## Running -/

/-- All filters as one predicate. -/
def predicate : Predicate := .conjunction query.predicates

/-- Whether a record meets all of the predicates. -/
def meetsAll : List Predicate → Record → Except EvalError Bool
  | [], _ => .ok true
  | p :: ps, record => do
    if ← p.evaluate record then meetsAll ps record else .ok false

/-- Whether an item meets all filters. -/
def meets (item : α) : Except EvalError Bool := meetsAll query.predicates (query.view item)

/-- The items that meet all filters; the first item that cannot be tested is the error. -/
def selectFrom : List α → Except EvalError (List α)
  | [] => .ok []
  | item :: items => do
    let kept ← query.meets item
    let rest ← selectFrom items
    .ok (if kept then item :: rest else rest)

/-- The order of two items under the keys of the query. -/
def compareItems (a b : α) : Ordering := query.keys.compare (query.view a) (query.view b)

/-- The items that the query asks for. -/
def run : Except EvalError (List α) := do
  let selected ← query.selectFrom query.items
  let sorted := SortOrder.stableSort query.compareItems selected
  .ok (match query.limit with | none => sorted | some n => sorted.take n)

/-- How many items meet all filters. -/
def count : Except EvalError Nat := do
  let selected ← query.selectFrom query.items
  .ok selected.length

end MemoryQuery
end RecordQuery
