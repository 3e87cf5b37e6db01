import RecordQuery.Ordering.SortOrder

/-!
# `RecordQuery.Page.State` — where a reader of pages stands
-/

namespace RecordQuery

/-- Where a page lies: at the start, or right after or before the record of a cursor. -/
inductive Position where
  | start
  | after (cursor : String)
  | before (cursor : String)
deriving DecidableEq, Inhabited

namespace Position

def cursor? : Position → Option String
  | start => none
  | after cursor | before cursor => some cursor

/-- Whether pages are read from the end to the start. -/
def isBackward : Position → Bool
  | before _ => true
  | _ => false

def inspect : Position → String
  | start => "Start"
  | after cursor => "After(" ++ Text.escaped cursor ++ ")"
  | before cursor => "Before(" ++ Text.escaped cursor ++ ")"

end Position

/-- An ordering and a position in it. -/
structure PageState where
  ordering : SortOrder
  position : Position
deriving DecidableEq, Inhabited

namespace PageState

def ofOrdering (ordering : SortOrder) : PageState := ⟨ordering, .start⟩

def after (state : PageState) (cursor : String) : PageState :=
  { state with position := .after cursor }

def before (state : PageState) (cursor : String) : PageState :=
  { state with position := .before cursor }

/-- The state of the first page. -/
def first (state : PageState) : PageState := { state with position := .start }

def inspect (state : PageState) : String :=
  "CursorState \x7b ordering: " ++ state.ordering.inspect ++ ", position: " ++
    state.position.inspect ++ " \x7d"

end PageState
end RecordQuery
