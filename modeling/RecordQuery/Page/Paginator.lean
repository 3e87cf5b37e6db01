import RecordQuery.Ordering.Seek
import RecordQuery.Page.State
import RecordQuery.Query.MemoryQuery

/-!
# `RecordQuery.Page.Paginator` — pages of a query

A page is fetched in one go: the query is sorted, backward if the page lies before a cursor, limited
to the records past the cursor, and asked for one record more than the page holds. That one only
tells that there are more. Cursors are made and read under the ordering of the state, whichever way
the page is read.
-/

namespace RecordQuery

/-- Why there is no page. -/
inductive PageError where
  | emptyOrdering
  | zeroPageSize
  | pageSizeTooLarge (requested greatest : Nat)
  | cursor (error : CursorError)
  /-- The provider of records failed. -/
  | materialize (message : String)
deriving DecidableEq, Inhabited

def PageError.message : PageError → String
  | emptyOrdering => "keyset pagination requires at least one ordering clause"
  | zeroPageSize => "page size must be positive"
  | pageSizeTooLarge requested greatest =>
    "page size " ++ toString requested ++ " exceeds the maximum of " ++ toString greatest
  | cursor error => error.message
  | materialize message => "materialization failed: " ++ message

structure Page (α : Type) where
  items : List α
  startCursor : Option String
  endCursor : Option String
  hasNextPage : Bool
  hasPreviousPage : Bool
deriving DecidableEq

structure PageLimits where
  maxPageSize : Option Nat := none
deriving DecidableEq, Inhabited

/-- How pages are made. -/
structure Paginator where
  limits : PageLimits := {}
  /-- Whether the values of cursors are parameters of the query. -/
  parameterizeValues : Bool := false
deriving DecidableEq, Inhabited

/-- The greatest number of records that a query can be asked for. -/
def greatestCount : Nat := 2 ^ 64 - 1

namespace Paginator

variable {α : Type} (paginator : Paginator) (catalog : Catalog)

/-- Whether a page may have the size. -/
def checkSize (size : Nat) : Except PageError Unit :=
  if size = 0 then .error .zeroPageSize
  else
    match paginator.limits.maxPageSize with
    | some greatest =>
      if greatest < size then .error (.pageSizeTooLarge size greatest) else .ok ()
    | none => .ok ()

/-- The records past the cursor of a state, in the direction of reading. -/
def pastCursor (state : PageState) (effective : SortOrder) (query : MemoryQuery α) :
    Except CursorError (MemoryQuery α) :=
  match state.position.cursor? with
  | none => .ok query
  | some token => do
    let values ← Cursor.decode catalog token state.ordering.keyTypes
    let seek ← Seek.predicate effective values paginator.parameterizeValues
    .ok (query.filter seek)

/-- The query for a page and one record more. -/
def prepare (source : MemoryQuery α) (state : PageState) (size : Nat) :
    Except PageError (MemoryQuery α) := do
  paginator.checkSize size
  let effective :=
    if state.position.isBackward then state.ordering.reversed else state.ordering
  match source.orderByAll? effective with
  | none => .error .emptyOrdering
  | some query =>
    match paginator.pastCursor catalog state effective query with
    | .error e => .error (.cursor e)
    | .ok query => .ok (query.take (min (size + 1) greatestCount))

/-- The cursor of an item, if there is one. -/
def cursorOf (view : α → Record) (ordering : SortOrder) :
    Option α → Except PageError (Option String)
  | none => .ok none
  | some item =>
    match Cursor.encode (ordering.keyValues (view item)) with
    | .ok token => .ok (some token)
    | .error e => .error (.cursor e)

/-- The page that the items of a query make, which stand in the direction of reading. -/
def assemble (view : α → Record) (rows : List α) (state : PageState) (size : Nat) :
    Except PageError (Page α) := do
  let more := size < rows.length
  let kept := rows.take size
  let items := if state.position.isBackward then kept.reverse else kept
  let startCursor ← cursorOf view state.ordering items.head?
  let endCursor ← cursorOf view state.ordering items.getLast?
  let (hasNextPage, hasPreviousPage) :=
    if items.isEmpty then (false, false)
    else if state.position.isBackward then (true, decide more)
    else (decide more, state.position.cursor?.isSome)
  .ok ⟨items, startCursor, endCursor, hasNextPage, hasPreviousPage⟩

/-- A page of a query, whose items `materialize` gets. -/
def paginate (source : MemoryQuery α) (state : PageState) (size : Nat)
    (materialize : MemoryQuery α → Except String (List α)) : Except PageError (Page α) := do
  let query ← paginator.prepare catalog source state size
  match materialize query with
  | .error message => .error (.materialize message)
  | .ok rows => assemble source.view rows state size

/-- The items of a query, its error as a message. -/
def runQuery (query : MemoryQuery α) : Except String (List α) :=
  match query.run with
  | .ok items => .ok items
  | .error e => .error e.message

end Paginator
end RecordQuery
