import RecordQuery.Declaration.FieldMark
import RecordQuery.Text.Name

/-!
# `RecordQuery.Declaration.Fields` — schemas and enumerations from declarations

`Item.fields` gives the fields of the record type that an item declares, in their order; each comes
with a constant that holds its name. `Item.variantNames` gives the names of an enumeration.
-/

namespace RecordQuery.Declaration

/-- Why a declaration makes no record type or no enumeration. -/
inductive DeclarationError where
  | genericRecord
  | notAStructure
  | unnamedFields
  | mark (error : MarkError)
  /-- No constant can be called like this: the derivation ends here, without an answer. -/
  | notAName (constant : String)
  | optionalElements
  | genericEnumeration
  | notAnEnumeration
  | variantWithData
deriving DecidableEq, Inhabited

def DeclarationError.message : DeclarationError → String
  | genericRecord => "Record cannot be derived for generic structs"
  | notAStructure => "Record can only be derived for structs"
  | unnamedFields => "Record can only be derived for structs with named fields"
  | mark error => error.message
  | notAName constant => "'" ++ constant ++ "' is not a valid identifier"
  | optionalElements => "collection elements cannot be optional"
  | genericEnumeration => "RecordEnum cannot be derived for generic enums"
  | notAnEnumeration => "RecordEnum can only be derived for enums"
  | variantWithData => "RecordEnum variants cannot carry data"

/-- What `wrapper` is applied to, if the type is an application of it to one type. The wrapper is
known by the last name of its path. -/
def TypeForm.argumentOf? (wrapper : String) : TypeForm → Option TypeForm
  | .named name [.type inner] _ => if name = wrapper then some inner else none
  | _ => none

/-- How the type of a field is made from the type of a single value. -/
structure Wrapping where
  nullable : Bool
  isList : Bool
  element : TypeForm
deriving Inhabited

/-- An `Option` around the type makes it nullable, a `Vec` around what is left a list. -/
def Wrapping.ofType (type : TypeForm) : Wrapping :=
  let (nullable, inner) :=
    match type.argumentOf? "Option" with
    | some inner => (true, inner)
    | none => (false, type)
  match inner.argumentOf? "Vec" with
  | some element => ⟨nullable, true, element⟩
  | none => ⟨nullable, false, inner⟩

/-- A field that a declaration gives to a record type. -/
structure DeclaredField where
  /-- The constant that holds the name. -/
  constant : String
  name : String
  kind : FieldKind
  isList : Bool
  nullable : Bool
  /-- The type of a single value as it is written. -/
  element : String
deriving DecidableEq, Inhabited

/-- The field that a member makes, if its tag gives it a kind. -/
def Member.field (member : Member) : Except DeclarationError (Option DeclaredField) := do
  let mark ← (FieldMark.ofTags member.tags).mapError .mark
  match mark.skip, mark.kind with
  | false, some kind =>
    let name := mark.rename.getD member.name
    let constant := Text.constantCase name
    if !Text.isName constant.toList then throw (.notAName constant)
    let wrapping := Wrapping.ofType member.type
    if (wrapping.element.argumentOf? "Option").isSome then throw .optionalElements
    return some ⟨constant, name, kind, wrapping.isList, wrapping.nullable, wrapping.element.text⟩
  | _, _ => return none

/-- The fields of the record type that an item declares. -/
def Item.fields (item : Item) : Except DeclarationError (List DeclaredField) := do
  if item.isGeneric then throw .genericRecord
  match item.body with
  | .fields members => return (← members.mapM Member.field).reduceOption
  | .tuple _ | .unit => throw .unnamedFields
  | .variants _ | .union _ => throw .notAStructure

/-- The names of the enumeration that an item declares, in the order of their ordinals. -/
def Item.variantNames (item : Item) : Except DeclarationError (List String) := do
  if item.isGeneric then throw .genericEnumeration
  match item.body with
  | .variants variants =>
    if variants.any (·.hasData) then throw .variantWithData
    return variants.map (·.name)
  | _ => throw .notAnEnumeration

end RecordQuery.Declaration
