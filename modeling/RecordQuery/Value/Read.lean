import RecordQuery.Path
import RecordQuery.Value.Basic

/-!
# `RecordQuery.Value.Read` — reading a field of a record through a path

`Path.read` says what is wrong where a path cannot be followed; `Path.readOrNull` reads null there.
-/

namespace RecordQuery

/-- Why a predicate cannot be evaluated on a record. -/
inductive EvalError where
  | nullReference (path : String)
  | shape (path expected found : String)
deriving DecidableEq, Inhabited

def EvalError.message : EvalError → String
  | nullReference path => "null reference while reading '" ++ path ++ "'"
  | shape path expected found =>
    "'" ++ path ++ "' did not produce a " ++ expected ++ " (found " ++ found ++ ")"

namespace Path

/-- Reads the rest of a path, `walked` being the names before it. -/
def readFrom (walked : Path) : Path → Record → Except EvalError Value
  | [], _ => .error (.shape "" "field" "empty path")
  | [name], record => .ok (record.field name)
  | name :: next :: rest, record =>
    let walked := walked ++ [name]
    match record.field name with
    | .record inner => readFrom walked (next :: rest) inner
    | .scalar .null => .error (.nullReference (text walked))
    | other => .error (.shape (text walked) "record" other.kind)

/-- Reads the field at the end of a path. A path cannot go through a null or another value that is
no record. -/
def read (path : Path) (record : Record) : Except EvalError Value := readFrom [] path record

/-- Reads the field at the end of a path, or null if the path cannot be followed. -/
def readOrNull : Path → Record → Value
  | [], _ => .null
  | [name], record => record.field name
  | name :: next :: rest, record =>
    match record.field name with
    | .record inner => readOrNull (next :: rest) inner
    | _ => .null

end Path
end RecordQuery
