import RecordQuery.Declaration.Token

/-!
# `RecordQuery.Declaration.Rule` — rules that read tokens of a declaration

A rule takes tokens from the front or fails. This module has the tests of what comes next
(`startsWith…`) and the small rules that the grammar is put together from: single tokens, groups and
lists.
-/

namespace RecordQuery.Declaration

/-- A rule of the grammar: what it reads and the tokens it leaves, or no result. -/
abbrev Rule (α : Type) := StateT (List Token) Option α

/-! ## What comes next -/

/-- Words that are not names. -/
def keywords : List String :=
  ["_", "abstract", "as", "async", "await", "become", "box", "break", "const", "continue", "crate",
    "do", "dyn", "else", "enum", "extern", "false", "final", "fn", "for", "if", "impl", "in", "let",
    "loop", "macro", "match", "mod", "move", "mut", "override", "priv", "pub", "ref", "return",
    "Self", "self", "static", "struct", "super", "trait", "true", "try", "type", "typeof", "unsafe",
    "unsized", "use", "virtual", "where", "while", "yield"]

/-- Keywords that may stand in a path. -/
def pathKeywords : List String := ["super", "self", "Self", "crate"]

/-- Whether the tokens start with the signs, joined to each other. -/
def startsWith : List Char → List Token → Bool
  | [], _ => true
  | [c], .sign d _ :: _ => c == d
  | c :: cs, .sign d true :: tokens => c == d && startsWith cs tokens
  | _, _ => false

def startsWithWord (p : String → Bool) : List Token → Bool
  | .word w :: _ => p w
  | _ => false

def startsWithGroup (bracket : Bracket) : List Token → Bool
  | .group b _ :: _ => b == bracket
  | _ => false

def startsWithLifetime : List Token → Bool
  | .lifetime _ :: _ => true
  | _ => false

namespace Rule

/-! ## Single tokens and groups -/

/-- Whether the tokens ahead are as described; takes none of them. -/
def ahead (p : List Token → Bool) : Rule Bool := return p (← get)

/-- Leaves out the next tokens, which were looked at before. -/
def skip (n : Nat) : Rule Unit := modify (·.drop n)

/-- Takes the signs if they are there, and says whether. -/
def optional (signs : String) : Rule Bool := do
  let here ← ahead (startsWith signs.toList)
  if here then skip signs.length
  return here

def sign (signs : String) : Rule Unit := do
  guard (← optional signs)

/-- Takes the word if it is there, and says whether. -/
def optionalWord (word : String) : Rule Bool := do
  let here ← ahead (startsWithWord (· == word))
  if here then skip 1
  return here

def word (p : String → Bool) : Rule String := do
  match ← get with
  | .word w :: rest =>
    guard (p w)
    set rest
    return w
  | _ => failure

/-- A word that is no keyword. -/
def name : Rule String := word fun w => !keywords.contains w

def lifetime : Rule Unit := do
  guard (← ahead startsWithLifetime)
  skip 1

/-- The content of a group in the brackets. -/
def group (bracket : Bracket) : Rule (List Token) := do
  match ← get with
  | .group b content :: rest =>
    guard (b == bracket)
    set rest
    return content
  | _ => failure

/-- The content of a group in whatever brackets. -/
def anyGroup : Rule (List Token) := do
  match ← get with
  | .group _ content :: rest =>
    set rest
    return content
  | _ => failure

/-- What a rule reads of tokens that it takes all. -/
def within {α : Type} (content : List Token) (rule : Rule α) : Rule α := do
  let (x, rest) ← (rule content : Option (α × List Token))
  guard rest.isEmpty
  return x

/-! ## Lists -/

/-- Items and commas in turn, an item first, up to what ends the list; there are no more items than
the bound says. -/
def itemsUntil {α : Type} (ends : List Token → Bool) (item : Rule α) : Nat → Rule (List α)
  | 0 => failure
  | n + 1 => do
    if ← ahead ends then return []
    let x ← item
    if ← ahead ends then return [x]
    sign ","
    return x :: (← itemsUntil ends item n)

/-- Items with commas between them, a comma behind the last being allowed. -/
def listUntil {α : Type} (ends : List Token → Bool) (item : Rule α) : Rule (List α) := do
  itemsUntil ends item ((← get).length + 1)

/-- The items of a group. -/
def listIn {α : Type} (bracket : Bracket) (item : Rule α) : Rule (List α) := do
  within (← group bracket) (listUntil List.isEmpty item)

/-- What a rule reads, together with the tokens that it takes. -/
def withTokens {α : Type} (rule : Rule α) : Rule (α × List Token) := do
  let before ← get
  let x ← rule
  return (x, before.take (before.length - (← get).length))

end Rule

end RecordQuery.Declaration
