import RecordQuery.Text.Escaped
import RecordQuery.Value.Basic

/-!
# `RecordQuery.Value.Text` — values as predicates show them, and as a developer wants to see them

`Scalar.text` is the text inside predicates. `Value.inspect` shows every constructor, but leaves out
what is inside a record.
-/

namespace RecordQuery

/-- Every quote gets a backslash. -/
def quoteEscaped (cs : List Char) : List Char :=
  cs.flatMap fun c => if c = '\'' then ['\\', '\''] else [c]

/-- A scalar as predicates show it: texts, times and identifiers stand between quotes. -/
def Scalar.text : Scalar → String
  | null => "null"
  | bool true => "true"
  | bool false => "false"
  | number n => n.text
  | string s => "'" ++ String.ofList (quoteEscaped s.toList) ++ "'"
  | timestamp t => "'" ++ t.offsetText ++ "'"
  | uuid u => "'" ++ u.text ++ "'"
  | enum m => m.name

/-- A number and its kind. -/
def Number.inspect (n : Number) : String :=
  match n with
  | int _ => "I64(" ++ n.text ++ ")"
  | uint _ => "U64(" ++ n.text ++ ")"
  | float _ => "F64(" ++ n.text ++ ")"

/-- A member with the names of its parts. -/
def Member.inspect (m : Member) : String :=
  "EnumMember \x7b name: " ++ Text.escaped m.name ++ ", ordinal: " ++ toString m.ordinal ++ " \x7d"

/-- A scalar and its kind. -/
def Scalar.inspect : Scalar → String
  | null => "Null"
  | bool b => if b then "Bool(true)" else "Bool(false)"
  | number n => "Number(" ++ n.inspect ++ ")"
  | string s => "String(" ++ Text.escaped s ++ ")"
  | timestamp t => "Timestamp(" ++ t.zuluText ++ ")"
  | uuid u => "Uuid(" ++ u.text ++ ")"
  | enum m => "Enum(" ++ m.inspect ++ ")"

mutual

/-- A value and its kind. -/
def Value.inspect : Value → String
  | .scalar s => s.inspect
  | .record _ => "Record(..)"
  | .list items => "List([" ++ String.intercalate ", " (Value.inspectAll items) ++ "])"

def Value.inspectAll : List Value → List String
  | [] => []
  | item :: items => item.inspect :: Value.inspectAll items

end
end RecordQuery
