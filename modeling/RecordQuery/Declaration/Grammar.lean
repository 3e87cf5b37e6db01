import RecordQuery.Declaration.Rule

/-!
# `RecordQuery.Declaration.Grammar` — types and constant expressions in declarations

Of a type, only its last name, the arguments of that name and its text matter here; all else is read
to find where the type ends and whether it is one. The same holds of expressions, which stand for
array lengths and for values of tags; those with a body of statements are read only as a block in
brackets.

Types and expressions contain each other. Their rules count down a bound; every rule that does not
take a token calls rules further down the same chain, which is shorter than `chainLength`, so that
`readAll?` gives a bound that is never reached.
-/

namespace RecordQuery.Declaration

mutual
/-- A type as declared. -/
inductive TypeForm where
  /-- A type named by a path: the last name of the path and the arguments in angles behind it. -/
  | named (name : String) (arguments : List Argument) (text : String)
  | other (text : String)

/-- An argument of a type: a type, or a lifetime, a constant or a constraint. -/
inductive Argument where
  | type (form : TypeForm)
  | other
end

instance : Inhabited TypeForm := ⟨.other ""⟩

/-- The type as it is written, without spaces. -/
def TypeForm.text : TypeForm → String
  | named _ _ text | other text => text

open Rule

/-! ## Rules without types inside -/

/-- Lifetimes bound in front of a type: `for<'a, 'b>`. -/
def binder? : Rule Bool := do
  let here ← optionalWord "for"
  if here then
    sign "<"
    let _ ← listUntil (startsWith ['>']) do
      lifetime
      if ← optional ":" then
        let _ ← itemsOfSum lifetime ((← get).length)
    sign ">"
  return here
where
  itemsOfSum (item : Rule Unit) : Nat → Rule Unit
    | 0 => return
    | n + 1 => do
      if ← ahead fun ts => startsWith [','] ts || startsWith ['>'] ts then return
      item
      if ← optional "+" then itemsOfSum item n

/-- Whether a literal comes next: a minus sign belongs to a number. -/
def startsWithLiteral : List Token → Bool
  | .literal _ _ :: _ => true
  | .word w :: _ => w == "true" || w == "false"
  | .sign '-' _ :: .literal _ .number :: _ => true
  | _ => false

def literal : Rule Unit := do
  guard (← ahead startsWithLiteral)
  let _ ← optional "-"
  skip 1

/-- A constant as an argument: a literal or a block. -/
def constantArgument : Rule Unit := do
  if ← ahead startsWithLiteral then literal
  else let _ ← group .curly

/-- Tags whose content does not matter. -/
def skipTags : Nat → Rule Unit
  | 0 => return
  | n + 1 => do
    if ← optional "#" then
      let _ ← group .square
      skipTags n

/-- Whether another bound may follow behind a plus sign. -/
def startsBound (tokens : List Token) : Bool :=
  startsWithWord (fun _ => true) tokens || startsWith [':', ':'] tokens ||
    startsWith ['?'] tokens || startsWithLifetime tokens || startsWithGroup .round tokens

/-- The operators with two operands, each before those that it starts with. -/
def binaryOperators : List String :=
  ["<<=", ">>=", "..=", "&&", "||", "<<", ">>", "==", "!=", "<=", ">=", "+=", "-=", "*=", "/=",
    "%=", "^=", "&=", "|=", "..", "+", "-", "*", "/", "%", "^", "&", "|", "<", ">", "="]

/-! ## Types and expressions -/

/-- A path: its last name with the arguments behind it, and what it is made of. -/
structure PathForm where
  name : String
  arguments : List Argument
  /-- Whether the last name has arguments of any form. -/
  applied : Bool
  /-- Whether it is one name, alone or with arguments in angles. -/
  lone : Bool
  /-- Whether no name has arguments. -/
  plain : Bool
  /-- Whether the path starts in a type given in angles. -/
  qualified : Bool

/-- The type that was read from the tokens, which may be no more than a path. -/
def TypeForm.ofPath? (path : Option PathForm) (tokens : List Token) : TypeForm :=
  match path with
  | some p => .named p.name p.arguments (textOf tokens)
  | none => .other (textOf tokens)

def endsInComma (tokens : List Token) : Bool :=
  match tokens.getLast? with
  | some (.sign ',' _) => true
  | _ => false

mutual

/-- A type. With `plus`, bounds joined to it by plus signs belong to it. -/
def typeForm : Nat → Bool → Rule TypeForm
  | 0, _ => failure
  | n + 1, plus => do
    let (path, tokens) ← withTokens (typePath? n plus)
    return .ofPath? path tokens

/-- A type, and its path if it is no more than a path. -/
def typePath? : Nat → Bool → Rule (Option PathForm)
  | 0, _ => failure
  | n + 1, plus => do
    let quantified ← binder?
    let tokens ← get
    if startsWithWord (fun w => w == "fn" || w == "unsafe" || w == "extern") tokens then
      functionType n
      return none
    if quantified then
      guard (startsWithWord (fun w => !keywords.contains w || pathKeywords.contains w) tokens)
      let _ ← path n false
      boundsBehind n plus
      return none
    match tokens with
    | .group .round content :: rest =>
      set rest
      if startsWithLifetime content then
        let _ ← within content (bounds n true)
        return none
      if startsWith ['?'] content then
        let _ ← within content (bound n)
        boundsBehind n true
        return none
      let forms ← within content (listUntil List.isEmpty (typeForm n true))
      match forms with
      | [.named _ _ _] => if !endsInComma content then boundsBehind n plus
      | _ => pure ()
      return none
    | .group .square content :: rest =>
      set rest
      within content do
        let _ ← typeForm n true
        if ← optional ";" then expression n
      return none
    | .sign '*' _ :: rest =>
      set rest
      let _ ← word fun w => w == "const" || w == "mut"
      let _ ← typeForm n false
      return none
    | .sign '&' _ :: rest =>
      set rest
      if ← ahead startsWithLifetime then skip 1
      let _ ← optionalWord "mut"
      let _ ← typeForm n false
      return none
    | .sign '!' _ :: rest =>
      guard !(startsWith ['='] rest)
      set rest
      return none
    | .lifetime _ :: _ =>
      guard (← bounds n true)
      return none
    | .word "dyn" :: rest =>
      set rest
      let _ ← optional "*"
      guard (← bounds n plus)
      return none
    | .word "impl" :: rest =>
      set rest
      guard (← bounds n plus)
      return none
    | .word "_" :: rest =>
      set rest
      return none
    | _ =>
      let p ← path n false
      if p.qualified then return some p
      if p.plain && (← ahead fun ts => startsWith ['!'] ts && !startsWith ['!', '='] ts) then
        skip 1
        let _ ← anyGroup
        return none
      if plus && (← ahead (startsWith ['+'])) then
        boundsBehind n plus
        return none
      return some p

/-- A function type: `unsafe extern "C" fn(name: A, B) -> C`. -/
def functionType : Nat → Rule Unit
  | 0 => failure
  | n + 1 => do
    let _ ← optionalWord "unsafe"
    if ← optionalWord "extern" then
      match ← get with
      | .literal _ (.text _) :: rest => set rest
      | _ => pure ()
    let _ ← word (· == "fn")
    let _ ← listIn .round do
      skipTags (← get).length
      if ← ahead fun
          | .word w :: rest =>
            (!keywords.contains w || w == "_" || w == "self") && startsWith [':'] rest &&
              !startsWith [':', ':'] rest
          | _ => false then skip 2
      if ← optional "..." then return
      let _ ← typeForm n true
    if ← optional "->" then
      let _ ← typeForm n false

/-- A bound: a lifetime or a trait. Says whether it is a trait. -/
def bound : Nat → Rule Bool
  | 0 => failure
  | n + 1 => do
    match ← get with
    | .lifetime _ :: rest =>
      set rest
      return false
    | .group .round content :: rest =>
      set rest
      within content (traitBound n)
      return true
    | _ =>
      traitBound n
      return true

def traitBound : Nat → Rule Unit
  | 0 => failure
  | n + 1 => do
    let _ ← binder?
    let _ ← optional "?"
    let _ ← binder?
    let _ ← path n false

/-- Bounds with plus signs between them, one only unless `plus`. Says whether any is a trait. -/
def bounds : Nat → Bool → Rule Bool
  | 0, _ => failure
  | n + 1, plus => do
    let first ← bound n
    if plus && (← optional "+") && (← ahead startsBound) then
      return first || (← bounds n plus)
    return first

/-- Bounds that go on behind a first one, if `plus`. -/
def boundsBehind : Nat → Bool → Rule Unit
  | 0, _ => failure
  | n + 1, plus => do
    if plus && (← optional "+") && (← ahead startsBound) then
      let _ ← bounds n plus

/-- A path. In an expression, arguments in angles need `::` before them and arguments in round
brackets are not part of the path. -/
def path : Nat → Bool → Rule PathForm
  | 0, _ => failure
  | n + 1, inExpression => do
    if ← optional "<" then
      let _ ← typeForm n true
      if ← optionalWord "as" then
        let _ ← path n false
      sign ">"
      sign "::"
      return { (← pathEnd n inExpression) with qualified := true, lone := false }
    let rooted ← optional "::"
    let p ← pathEnd n inExpression
    return { p with lone := p.lone && !rooted }

/-- The names of a path. -/
def pathEnd : Nat → Bool → Rule PathForm
  | 0, _ => failure
  | n + 1, inExpression => do
    let simple (w : String) := w == "super" || w == "self" || w == "crate" || w == "try"
    let name ← word fun w => simple w || w == "Self" || !keywords.contains w
    let angles ← ahead fun ts =>
      !inExpression && startsWith ['<'] ts && !startsWith ['<', '='] ts &&
        !startsWith ['<', '<', '='] ts || startsWith [':', ':'] ts && startsWith ['<'] (ts.drop 2)
    let p ←
      if angles && !simple name then do
        let _ ← optional "::"
        sign "<"
        let arguments ← listUntil (startsWith ['>']) (argument n)
        sign ">"
        pure ⟨name, arguments, true, true, false, false⟩
      else pure ⟨name, [], false, true, true, false⟩
    if ← ahead fun ts => startsWith [':', ':'] ts && !startsWithGroup .round (ts.drop 2) then
      skip 2
      let rest ← pathEnd n inExpression
      return { rest with lone := false, plain := rest.plain && p.plain }
    let round ← ahead fun ts =>
      startsWithGroup .round ts || startsWith [':', ':'] ts && startsWithGroup .round (ts.drop 2)
    if !inExpression && !p.applied && round then
      let _ ← optional "::"
      let _ ← listIn .round (typeForm n true)
      if ← optional "->" then
        let _ ← typeForm n false
      return { p with applied := true, plain := false, lone := false }
    return p

/-- An argument in angles. -/
def argument : Nat → Rule Argument
  | 0 => failure
  | n + 1 => do
    if ← ahead fun ts => startsWithLifetime ts && !startsWith ['+'] (ts.drop 1) then
      skip 1
      return .other
    if ← ahead fun ts => startsWithLiteral ts || startsWithGroup .curly ts then
      constantArgument
      return .other
    let (path, tokens) ← withTokens (typePath? n true)
    if (path.map (·.lone)).getD false then
      if ← optional "=" then
        if ← ahead fun ts => startsWithLiteral ts || startsWithGroup .curly ts then constantArgument
        else
          let _ ← typeForm n true
        return .other
      if ← optional ":" then
        if !(← ahead fun ts => startsWith [','] ts || startsWith ['>'] ts) then
          let _ ← bounds n true
        return .other
    return .type (.ofPath? path tokens)

/-- An expression. Operators are not ranked: only its end matters. -/
def expression : Nat → Rule Unit
  | 0 => failure
  | n + 1 => do
    operand n
    if ← optionalWord "as" then
      let _ ← typeForm n false
      operatorBehind n
    else operatorBehind n

/-- An operator and what follows it, if there is one. -/
def operatorBehind : Nat → Rule Unit
  | 0 => failure
  | n + 1 => do
    let tokens ← get
    match binaryOperators.find? fun op => startsWith op.toList tokens with
    | some op =>
      skip op.length
      expression n
    | none => return

/-- An expression without binary operators. -/
def operand : Nat → Rule Unit
  | 0 => failure
  | n + 1 => do
    match ← get with
    | .sign '&' _ :: rest =>
      set rest
      let _ ← optionalWord "mut"
      operand n
    | .sign '*' _ :: rest | .sign '!' _ :: rest | .sign '-' _ :: rest =>
      set rest
      operand n
    | _ =>
      if ← ahead startsWithLiteral then literal
      else atom n
      suffixes n

/-- A path, a call of a named form, or what stands in brackets. -/
def atom : Nat → Rule Unit
  | 0 => failure
  | n + 1 => do
    match ← get with
    | .group .round content :: rest =>
      set rest
      let _ ← within content (listUntil List.isEmpty (expression n))
    | .group .square content :: rest =>
      set rest
      within content do
        if ← ahead List.isEmpty then return
        expression n
        if ← optional ";" then expression n
        else if ← optional "," then
          let _ ← listUntil List.isEmpty (expression n)
    | .group .curly _ :: rest => set rest
    | .word "unsafe" :: .group .curly _ :: rest | .word "const" :: .group .curly _ :: rest
    | .word "loop" :: .group .curly _ :: rest => set rest
    | _ =>
      let p ← path n true
      if p.plain && (← ahead fun ts => startsWith ['!'] ts && !startsWith ['!', '='] ts) then
        skip 1
        let _ ← anyGroup
      else if ← ahead (startsWithGroup .curly) then skip 1

/-- Calls, indices, members and question marks behind an expression. -/
def suffixes : Nat → Rule Unit
  | 0 => failure
  | n + 1 => do
    match ← get with
    | .group .round content :: rest =>
      set rest
      let _ ← within content (listUntil List.isEmpty (expression n))
      suffixes n
    | .group .square content :: rest =>
      set rest
      within content (expression n)
      suffixes n
    | .sign '?' _ :: rest =>
      set rest
      suffixes n
    | .sign '.' false :: .literal _ .number :: rest =>
      set rest
      suffixes n
    | .sign '.' false :: .word w :: rest =>
      guard (w == "await" || !keywords.contains w)
      set rest
      if ← optional "::" then
        sign "<"
        let _ ← listUntil (startsWith ['>']) (argument n)
        sign ">"
      suffixes n
    | _ => return

end

end RecordQuery.Declaration
