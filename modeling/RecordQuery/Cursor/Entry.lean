import RecordQuery.Calendar.TimestampReader
import RecordQuery.Json.Basic
import RecordQuery.Json.Quoted
import RecordQuery.Ordering.SortOrder

/-!
# `RecordQuery.Cursor.Entry` — the values of a cursor

An entry is a scalar as a cursor carries it: with a tag for its kind, and without what the key type
knows anyway, such as the ordinal of a member. `json` writes an entry, `ofJson?` reads one, and
`scalar?` makes it a scalar of a key type again if that takes no rounding.
-/

namespace RecordQuery

inductive Entry where
  | null
  | bool (value : Bool)
  | int (value : Int64)
  | uint (value : UInt64)
  | float (value : Binary64)
  | text (value : String)
  | time (value : Timestamp)
  | uuid (value : Uuid)
  | enum (name : String)
deriving DecidableEq, Inhabited

namespace Entry

/-- The entry for a scalar; a number that is not finite has none. -/
def ofScalar? : Scalar → Option Entry
  | .null => some null
  | .bool b => some (bool b)
  | .number (.int n) => some (int n)
  | .number (.uint n) => some (uint n)
  | .number (.float x) => if x.isFinite then some (float x) else none
  | .string s => some (text s)
  | .timestamp t => some (time t)
  | .uuid u => some (uuid u)
  | .enum m => some (enum m.name)

/-- The scalar of a key type that an entry stands for. An integer may become a number of another
kind that has the same value. -/
def scalar? (key : KeyType) : Entry → Option Scalar
  | null => if key.nullable then some .null else none
  | bool b => if key.type = .bool then some (.bool b) else none
  | text s => if key.type = .string then some (.string s) else none
  | time t => if key.type = .timestamp then some (.timestamp t) else none
  | uuid u => if key.type = .uuid then some (.uuid u) else none
  | enum name =>
    match key.type with
    | .enum variants => (Member.find? variants name).map .enum
    | _ => none
  | int n =>
    match key.type with
    | .int => some (.number (.int n))
    | .uint => if 0 ≤ n.toInt then some (.number (.uint (.ofNat n.toInt.toNat))) else none
    | .float => (Binary64.exactOfInt? n.toInt).map fun x => .number (.float x)
    | _ => none
  | uint n =>
    match key.type with
    | .uint => some (.number (.uint n))
    | .int => (Number.ofInt? n.toNat).map .number
    | .float => (Binary64.exactOfInt? n.toNat).map fun x => .number (.float x)
    | _ => none
  | float x => if key.type = .float then some (.number (.float x)) else none

/-! ## Writing -/

/-- The tag of an entry. -/
def tag : Entry → List Char
  | null => ['n', 'u', 'l', 'l']
  | bool _ => ['b', 'o', 'o', 'l']
  | int _ => ['i', 'n', 't']
  | uint _ => ['u', 'i', 'n', 't']
  | float _ => ['f', 'l', 'o', 'a', 't']
  | text _ => ['s', 't', 'r']
  | time _ => ['t', 'i', 'm', 'e']
  | uuid _ => ['u', 'u', 'i', 'd']
  | enum _ => ['e', 'n', 'u', 'm']

/-- The content of an entry as JSON; null has none. -/
def content? : Entry → Option (List Char)
  | null => none
  | bool b => some (if b then ['t', 'r', 'u', 'e'] else ['f', 'a', 'l', 's', 'e'])
  | int n => some (toString n.toInt).toList
  | uint n => some (toString n.toNat).toList
  | float x => some (x.text .cursor).toList
  | text s => some (Json.quoted s.toList)
  | time t => some (Json.quoted t.zuluText.toList)
  | uuid u => some (Json.quoted u.text.toList)
  | enum name => some (Json.quoted name.toList)

/-- An entry as a JSON object. -/
def json (entry : Entry) : List Char :=
  '\x7b' :: Json.quoted ['t'] ++ ':' :: Json.quoted entry.tag ++
    (match entry.content? with
      | some content => ',' :: Json.quoted ['v'] ++ ':' :: content
      | none => []) ++ ['\x7d']

/-! ## Reading -/

/-- The string that a document is. -/
def jsonText? : Json → Option String
  | .string s => Json.text? s
  | _ => none

/-- The tag that a document stands for: a string, or an object with that name and a null. -/
def jsonTag? : Json → Option String
  | .string s => Json.text? s
  | .object [(name, .null)] => Json.text? name
  | _ => none

/-- The entry with a tag and a content. -/
def ofTagged? (tag : String) (content : Json) : Option Entry :=
  match tag, content with
  | "null", .null => some null
  | "bool", .boolean b => some (bool b)
  | "int", .number n =>
    n.integer?.bind fun n => if -(2 ^ 63) ≤ n ∧ n < 2 ^ 63 then some (int (.ofInt n)) else none
  | "uint", .number n =>
    n.integer?.bind fun n => if 0 ≤ n ∧ n < 2 ^ 64 then some (uint (.ofNat n.toNat)) else none
  | "float", .number n =>
    let x := n.value.toBinary64
    if x.isFinite then some (float x) else none
  | "str", content => (jsonText? content).map text
  | "time", content => (jsonText? content).bind fun s => (Timestamp.relaxed? s.toList).map time
  | "uuid", content => (jsonText? content).bind fun s => (Uuid.read? s.toList).map uuid
  | "enum", content => (jsonText? content).map enum
  | _, _ => none

/-- The tag and the content among the fields of an object, each at most once. The names of all
fields have to be texts, but the other fields do not matter. -/
def taggedFields? : List (Json.RawString × Json) → Option (Option Json × Option Json)
  | [] => some (none, none)
  | (name, value) :: rest => do
    let name ← Json.text? name
    let (tag, content) ← taggedFields? rest
    if name = "t" then
      if tag.isSome then none else some (some value, content)
    else if name = "v" then
      if content.isSome then none else some (tag, some value)
    else some (tag, content)

/-- The entry that a document stands for: an object with a tag and a content, or an array of the
two. Only null may do without a content. -/
def ofJson? : Json → Option Entry
  | .object fields => do
    let (tag, content) ← taggedFields? fields
    let tag ← jsonTag? (← tag)
    match content with
    | some content => ofTagged? tag content
    | none => if tag = "null" then some null else none
  | .array [tag, content] => do ofTagged? (← jsonTag? tag) content
  | _ => none

end Entry
end RecordQuery
