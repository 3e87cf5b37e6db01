import RecordQuery.Declaration.Item

/-!
# `RecordQuery.Declaration.FieldMark` — what the tag of a field says

A field belongs to the schema of its record if its first `field` tag gives it a kind, as
`#[field(Int)]` does, or `#[field(ty = "enum")]` where the kind is a keyword. The tag can also give
the field another name or leave it out. Of two kinds or two names the later counts.
-/

namespace RecordQuery.Declaration

/-- What the values of a field are; whether there may be none or many its type tells. -/
inductive FieldKind where
  | string
  | int
  | uint
  | float
  | bool
  | timestamp
  | uuid
  | enum
  | record
deriving DecidableEq, Inhabited

/-- A kind is named with a capital or in small letters. -/
def FieldKind.ofName? : String → Option FieldKind
  | "String" | "string" => some string
  | "Int" | "int" => some int
  | "UInt" | "uint" => some uint
  | "Float" | "float" => some float
  | "Bool" | "bool" => some bool
  | "Timestamp" | "timestamp" => some timestamp
  | "Uuid" | "uuid" => some uuid
  | "Enum" | "enum" => some enum
  | "Record" | "record" => some record
  | _ => none

/-- What is wrong with the tag of a field. -/
inductive MarkError where
  /-- It is not a list of names, values and lists in brackets. -/
  | malformed
  | unknownKind (name : String)
  | kindExpected
  | notText (property : String)
  | unknownProperty
  | unknownForm
deriving DecidableEq, Inhabited

def kindNames : String := "String, Int, UInt, Float, Bool, Timestamp, Uuid, Enum, Record"

def MarkError.message : MarkError → String
  | malformed => "malformed tag"
  | unknownKind name => "unknown field kind: '" ++ name ++ "'. Expected one of: " ++ kindNames
  | kindExpected => "expected field kind: " ++ kindNames ++ ", or skip"
  | notText property => property ++ " must be a string literal"
  | unknownProperty => "unknown attribute. Expected: rename or ty"
  | unknownForm =>
    "unknown field attribute. Expected: " ++ kindNames ++
      ", skip, rename = \"...\", or ty = \"...\""

/-- What the tag of a field says. -/
structure FieldMark where
  kind : Option FieldKind := none
  /-- Whether the field is left out whatever else is said. -/
  skip : Bool := false
  rename : Option String := none
deriving DecidableEq, Inhabited

namespace FieldMark

def withKind (mark : FieldMark) (name : String) : Except MarkError FieldMark :=
  match FieldKind.ofName? name with
  | some kind => .ok { mark with kind := some kind }
  | none => .error (.unknownKind name)

/-- Adds one item of the tag's list. -/
def add (mark : FieldMark) (item : Tag) : Except MarkError FieldMark :=
  match item.body, item.name? with
  | .bare, some "skip" => .ok { mark with skip := true }
  | .bare, some name => mark.withKind name
  | .bare, none => .error .kindExpected
  | .value (some text), some "rename" => .ok { mark with rename := some text }
  | .value (some text), some "ty" => mark.withKind text
  | .value none, some "rename" => .error (.notText "rename")
  | .value none, some "ty" => .error (.notText "ty")
  | .value _, _ => .error .unknownProperty
  | .list _, _ => .error .unknownForm

/-- The items of a tag's list. -/
def items? (content : List Token) : Option (List Tag) :=
  readAll? (fun bound => Rule.listUntil List.isEmpty (tagContent bound)) content

/-- What the first tag called `field` says; without one a field says nothing. -/
def ofTags (tags : List Tag) : Except MarkError FieldMark :=
  match tags.find? (·.name? == some "field") with
  | none => .ok {}
  | some ⟨_, .list content⟩ =>
    match items? content with
    | some items => items.foldlM add {}
    | none => .error .malformed
  | some _ => .error .malformed

end FieldMark
end RecordQuery.Declaration
