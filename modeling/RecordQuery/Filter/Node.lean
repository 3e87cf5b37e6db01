import RecordQuery.Filter.Token
import RecordQuery.Path

/-!
# `RecordQuery.Filter.Node` — filters as trees

A tree records what was written; names and literals are checked later, against a schema. `join`
keeps chains of one connective flat.
-/

namespace RecordQuery.Filter

/-- A literal as written; numbers keep their text until their type is known. -/
inductive Literal where
  | number (text : String)
  | string (value : String)
  | boolean (value : Bool)
  | null
  | list (items : List Literal)
deriving Inhabited

/-- The left side of a comparison: a field, or the number of elements of a collection. -/
inductive Subject where
  | path (names : Path)
  | count (names : Path)
deriving DecidableEq, Inhabited

/-- The two connectives that take any number of terms. -/
inductive Connective where
  | and
  | or
deriving DecidableEq, Inhabited

/-- A filter. -/
inductive Node where
  | logical (connective : Connective) (terms : List Node)
  | not (inner : Node)
  | comparison (left : Subject) (op : Operator) (ignoreCase : Bool) (right : Literal)
  | quantified (quantifier : Quantifier) (source : Path) (body : Option Node)
deriving Inhabited

/-- The path of a subject. -/
def Subject.names : Subject → Path
  | path names | count names => names

def Subject.text : Subject → String
  | path names => names.text
  | count names => names.text ++ ":count"

mutual

/-- A literal as error messages show it: nothing inside a string is escaped. -/
def Literal.text : Literal → String
  | .number text => text
  | .string value => "'" ++ value ++ "'"
  | .boolean true => "true"
  | .boolean false => "false"
  | .null => "null"
  | .list items => "[" ++ String.intercalate ", " (Literal.texts items) ++ "]"

def Literal.texts : List Literal → List String
  | [] => []
  | item :: items => item.text :: Literal.texts items

end

namespace Node

/-- The terms that a node adds to a chain of the connective: its own terms if it is such a chain. -/
def spliced (connective : Connective) : Node → List Node
  | logical c terms => if c = connective then terms else [logical c terms]
  | node => [node]

/-- Connects terms; chains of the same connective among them are spliced in, and a single term
stands for itself. -/
def join (connective : Connective) (terms : List Node) : Node :=
  match terms.flatMap (spliced connective) with
  | [only] => only
  | flat => logical connective flat

end Node
end RecordQuery.Filter
