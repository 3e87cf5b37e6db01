import RecordQuery.Declaration.Grammar

/-!
# `RecordQuery.Declaration.Item` — reading the declaration of a type

An item declares a structure, an enumeration or a union. `read?` takes a text that holds one item
and nothing else; what is kept of it is what records and their enumerations are made from.
-/

namespace RecordQuery.Declaration

open Rule

/-- What stands behind the path of a tag. -/
inductive TagBody where
  | bare
  /-- Tokens in brackets, as they are. -/
  | list (content : List Token)
  /-- A value behind an equals sign, by what it stands for if it is a string alone. -/
  | value (text : Option String)
deriving Inhabited

/-- A tag: a path and what stands behind it. -/
structure Tag where
  /-- The names of the path, preceded by the empty name if it starts with `::`. -/
  path : List String
  body : TagBody
deriving Inhabited

/-- The path of a tag if it is a single name. -/
def Tag.name? (tag : Tag) : Option String :=
  match tag.path with
  | [name] => some name
  | _ => none

/-- A field of a structure or a union; in a tuple it has no name. -/
structure Member where
  tags : List Tag
  name : String
  type : TypeForm
deriving Inhabited

/-- A variant of an enumeration, and whether it carries data. -/
structure Variant where
  name : String
  hasData : Bool
deriving Inhabited, DecidableEq

inductive Body where
  /-- A structure with named fields. -/
  | fields (members : List Member)
  /-- A structure whose fields have no names. -/
  | tuple (members : List Member)
  /-- A structure without fields. -/
  | unit
  | variants (variants : List Variant)
  | union (members : List Member)
deriving Inhabited

structure Item where
  name : String
  /-- Whether the type has parameters. -/
  isGeneric : Bool
  body : Body
deriving Inhabited

section Rules

variable (limit : Nat)

/-! ## Tags -/

/-- The names of a path without arguments; keywords that stand for places are among them. -/
def placeNames : Nat → Rule (List String)
  | 0 => failure
  | n + 1 => do
    let name ← word fun w => !keywords.contains w || pathKeywords.contains w
    if ← optional "::" then return name :: (← placeNames n)
    return [name]

/-- A path and what stands behind it. -/
def tagContent : Rule Tag := do
  let path ←
    if ← optionalWord "unsafe" then pure ["unsafe"]
    else do
      let rooted ← optional "::"
      let names ← placeNames limit
      pure (if rooted then "" :: names else names)
  match ← get with
  | .group _ content :: rest =>
    set rest
    return ⟨path, .list content⟩
  | _ =>
    if ← optional "=" then
      match ← withTokens (expression limit) with
      | (_, [.literal _ (.text value)]) => return ⟨path, .value (some value)⟩
      | _ => return ⟨path, .value none⟩
    return ⟨path, .bare⟩

/-- The tags in front of a declaration, `#[…]` each. -/
def tags : Nat → Rule (List Tag)
  | 0 => return []
  | n + 1 => do
    if ← optional "#" then
      let tag ← within (← group .square) (tagContent limit)
      return tag :: (← tags n)
    return []

def tagsAhead : Rule (List Tag) := do tags limit (← get).length

/-! ## Parameters and bounds -/

/-- Who sees a declaration: `pub`, which may have a place in brackets behind it. -/
def visibility : Rule Unit := do
  if ← optionalWord "pub" then
    match ← get with
    | .group .round [.word w] :: rest =>
      if w == "crate" || w == "self" || w == "super" then set rest
    | .group .round (.word "in" :: place) :: rest =>
      set rest
      within place do
        let _ ← optional "::"
        let _ ← placeNames limit
    | _ => pure ()

/-- Bounds up to a sign that ends them, all of them optional. -/
def boundsUntil (ends : List Token → Bool) : Rule Unit := do
  if !(← ahead ends) then
    let _ ← bounds limit true

/-- A parameter of a type: a lifetime, a constant or a type. -/
def parameter : Rule Unit := do
  skipTags (← get).length
  let ends (ts : List Token) := startsWith [','] ts || startsWith ['>'] ts || startsWith ['='] ts
  if ← ahead startsWithLifetime then
    skip 1
    if ← optional ":" then boundsUntil limit ends
  else if ← optionalWord "const" then
    let _ ← name
    sign ":"
    let _ ← typeForm limit true
    if ← optional "=" then constantArgument
  else if ← optionalWord "_" then return
  else
    let _ ← name
    if ← optional ":" then boundsUntil limit ends
    if ← optional "=" then
      let _ ← typeForm limit true

/-- The parameters in angles behind a name; says whether there are any. -/
def parameters : Rule Bool := do
  if ← optional "<" then
    let found ← listUntil (startsWith ['>']) (parameter limit)
    sign ">"
    return !found.isEmpty
  return false

/-- A condition of a `where` clause. -/
def condition : Rule Unit := do
  if ← ahead startsWithLifetime then skip 1
  else
    let _ ← binder?
    let _ ← typeForm limit true
  sign ":"
  boundsUntil limit fun ts =>
    ts.isEmpty || startsWithGroup .curly ts || startsWith [','] ts || startsWith [';'] ts ||
      startsWith ['='] ts

def whereClause : Rule Unit := do
  if ← optionalWord "where" then
    let _ ← listUntil (fun ts => ts.isEmpty || startsWithGroup .curly ts || startsWith [';'] ts)
      (condition limit)

/-! ## Items -/

def namedMember : Rule Member := do
  let tags ← tagsAhead limit
  visibility limit
  let name ← word fun w => w == "_" || !keywords.contains w
  sign ":"
  return ⟨tags, name, ← typeForm limit true⟩

def tupleMember : Rule Member := do
  let tags ← tagsAhead limit
  visibility limit
  return ⟨tags, "", ← typeForm limit true⟩

def variant : Rule Variant := do
  let _ ← tagsAhead limit
  visibility limit
  let name ← name
  let hasData ← ahead fun ts => startsWithGroup .curly ts || startsWithGroup .round ts
  if ← ahead (startsWithGroup .curly) then
    let _ ← listIn .curly (namedMember limit)
  else if hasData then
    let _ ← listIn .round (tupleMember limit)
  if ← optional "=" then expression limit
  return ⟨name, hasData⟩

/-- What follows the name and the parameters of a structure. -/
def structureBody : Rule Body := do
  if ← ahead (startsWithGroup .round) then
    let members ← listIn .round (tupleMember limit)
    whereClause limit
    sign ";"
    return .tuple members
  whereClause limit
  if ← optional ";" then return .unit
  return .fields (← listIn .curly (namedMember limit))

/-- An item with its tags, which do not matter. -/
def item : Rule Item := do
  let _ ← tagsAhead limit
  visibility limit
  let keyword ← word fun w => w == "struct" || w == "enum" || w == "union"
  let name ← name
  let isGeneric ← parameters limit
  if keyword == "struct" then return ⟨name, isGeneric, ← structureBody limit⟩
  whereClause limit
  if keyword == "enum" then return ⟨name, isGeneric, .variants (← listIn .curly (variant limit))⟩
  return ⟨name, isGeneric, .union (← listIn .curly (namedMember limit))⟩

end Rules

/-- How many rules one token can take one after the other before it is taken. -/
def chainLength : Nat := 16

/-- What a rule reads of tokens that it takes all, under a bound that is never reached. -/
def readAll? {α : Type} (rule : Nat → Rule α) (tokens : List Token) : Option α :=
  ((within tokens (rule (chainLength * (totalSize tokens + 1)))).run []).map (·.1)

/-- The item that a text declares. -/
def Item.read? (text : String) : Option Item := do readAll? item (← readTokens text)

end RecordQuery.Declaration
