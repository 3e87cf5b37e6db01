import RecordQuery.Filter.Node
import RecordQuery.Filter.Scanner

/-!
# `RecordQuery.Filter.Grammar` — reading a filter

    Or         := And ('||' And)*
    And        := Unary ('&&' Unary)*
    Unary      := '!' Unary | '(' Or ')' | Path Quantified | Path (':' 'count')? Comparison
    Quantified := ':' 'any' '(' Or? ')' | ':' 'all' '(' Or ')'
    Path       := name ('.' name)*
    Comparison := operator (':' 'i')? (scalar | list)

Each rule is a function from a list of tokens to what it read and the tokens that are left. What
stops the tokens, the end of the text or a lexical error, is the parameter `stop`: a rule that needs
another token where there is none fails there, with the lexical error if there is one.
-/

namespace RecordQuery.Filter

/-- What the parser misses in a token, or has against it. -/
inductive SyntaxCause where
  | nestedTooDeeply
  | trailingToken
  | groupNotClosed
  | expectedProperty
  | expectedSegment
  | countNotFinal
  | secondModifier
  | unknownModifier
  | quantifierNotOpened
  | bodyRequired
  | quantifierNotClosed
  | quantifierNotFinal
  | expectedOperator
  | unsupportedFlag
  | listRequired
  | listNotAllowed
  | expectedLiteral
  | listNotClosed (opened : Nat)
  | expectedSeparator
deriving DecidableEq, Inhabited

def SyntaxCause.message : SyntaxCause → String
  | nestedTooDeeply => "expression is nested too deeply"
  | trailingToken => "unexpected token after complete expression"
  | groupNotClosed => "expected ')' to close group"
  | expectedProperty => "expected a property name or '('"
  | expectedSegment => "expected property name after '.'"
  | countNotFinal => "':count' must be the final segment of a property path"
  | secondModifier => "a path segment may carry only one modifier"
  | unknownModifier => "expected 'any', 'all' or 'count' after ':'"
  | quantifierNotOpened => "expected '(' after quantifier"
  | bodyRequired => "':all' requires a predicate"
  | quantifierNotClosed => "expected ')' to close quantifier"
  | quantifierNotFinal => "a quantifier must be the final segment of a property path"
  | expectedOperator => "expected a comparison operator"
  | unsupportedFlag => "unsupported operator modifier"
  | listRequired => "'in' requires a list literal"
  | listNotAllowed => "list literals are only valid with 'in'"
  | expectedLiteral => "expected a literal value"
  | listNotClosed opened => "list opened at position " ++ toString opened ++ " is not closed"
  | expectedSeparator => "expected ',' or ']' in list literal"

/-- A syntax error: the first token that no filter goes on with, and what was missed there. -/
structure SyntaxError where
  cause : SyntaxCause
  token : Token
deriving DecidableEq, Inhabited

def SyntaxError.message (e : SyntaxError) : String :=
  e.cause.message ++ " (found " ++ e.token.kind.label ++ " '" ++ e.token.text ++ "' at position " ++
    toString e.token.position ++ ")"

/-- Why a text is not a filter. -/
inductive ParseError where
  | lexical (error : LexError)
  | grammatical (error : SyntaxError)
deriving DecidableEq, Inhabited

def ParseError.message : ParseError → String
  | lexical e => e.message
  | grammatical e => e.message

/-- A rule of the grammar: what it reads and the tokens it leaves. -/
abbrev Rule (α : Type) := List Token → Except ParseError (α × List Token)

/-- How deep groups, negations and quantifiers may be nested. -/
def maxNesting : Nat := 64

/-- A token as a literal that may stand on its own. -/
def Literal.ofToken? (token : Token) : Option Literal :=
  match token.kind with
  | .number => some (.number token.text)
  | .string => some (.string token.text)
  | .boolean b => some (.boolean b)
  | .null => some .null
  | _ => none

section Rules

variable (stop : Except LexError Token)

/-- Fails at the first of the tokens, or at what stops them. -/
def reject {α : Type} (cause : SyntaxCause) (tokens : List Token) : Except ParseError α :=
  match tokens with
  | token :: _ => .error (.grammatical ⟨cause, token⟩)
  | [] =>
    match stop with
    | .ok token => .error (.grammatical ⟨cause, token⟩)
    | .error e => .error (.lexical e)

/-- Takes one token of the kind. -/
def expect (kind : TokenKind) (cause : SyntaxCause) (tokens : List Token) :
    Except ParseError (List Token) :=
  match tokens with
  | token :: rest => if token.kind = kind then .ok rest else reject stop cause tokens
  | [] => reject stop cause tokens

/-- The names of a path after the first. -/
def furtherSegments : Rule Path
  | ⟨.dot, _, _⟩ :: ⟨.identifier, name, _⟩ :: rest => do
    let (names, rest) ← furtherSegments rest
    .ok (name :: names, rest)
  | ⟨.dot, _, _⟩ :: rest => reject stop .expectedSegment rest
  | tokens => .ok ([], tokens)

/-- The items of a list after its opening bracket, at least one. -/
def listItems (opened : Nat) : Rule (List Literal)
  | [] => reject stop .expectedLiteral []
  | token :: rest =>
    match Literal.ofToken? token with
    | none => reject stop .expectedLiteral (token :: rest)
    | some item =>
      match rest with
      | [] => reject stop (.listNotClosed opened) []
      | ⟨.rightBracket, _, _⟩ :: rest => .ok ([item], rest)
      | ⟨.comma, _, _⟩ :: rest => do
        let (items, rest) ← listItems opened rest
        .ok (item :: items, rest)
      | other :: rest => reject stop .expectedSeparator (other :: rest)

/-- A list literal. -/
def listLiteral : Rule Literal
  | ⟨.leftBracket, _, _⟩ :: ⟨.rightBracket, _, _⟩ :: rest => .ok (.list [], rest)
  | ⟨.leftBracket, _, opened⟩ :: rest => do
    let (items, rest) ← listItems stop opened rest
    .ok (.list items, rest)
  | tokens => reject stop .listRequired tokens

/-- A literal that is no list. -/
def scalarLiteral : Rule Literal
  | [] => reject stop .expectedLiteral []
  | token :: rest =>
    match Literal.ofToken? token with
    | some literal => .ok (literal, rest)
    | none =>
      if token.kind = .leftBracket then reject stop .listNotAllowed (token :: rest)
      else reject stop .expectedLiteral (token :: rest)

/-- The optional flag of an operator that lets it ignore case. -/
def caseFlag : Rule Bool
  | ⟨.colon, _, _⟩ :: ⟨.identifier, name, position⟩ :: rest =>
    if name = "i" then .ok (true, rest)
    else reject stop .unsupportedFlag (⟨.identifier, name, position⟩ :: rest)
  | ⟨.colon, _, _⟩ :: rest => reject stop .unsupportedFlag rest
  | tokens => .ok (false, tokens)

/-- An operator, its flag and a literal. -/
def comparison (left : Subject) : Rule Node
  | ⟨.operator op, _, _⟩ :: rest => do
    let (ignoreCase, rest) ← caseFlag stop rest
    let (right, rest) ← if op = .oneOf then listLiteral stop rest else scalarLiteral stop rest
    .ok (.comparison left op ignoreCase right, rest)
  | tokens => reject stop .expectedOperator tokens

/-- What a rule reads, as often as there is a separator after it. Every rule used here takes a
token at least, so the tokens do get fewer. -/
def chain (separator : TokenKind) (item : Rule Node) (tokens : List Token) :
    Except ParseError (List Node × List Token) :=
  match item tokens with
  | .error e => .error e
  | .ok (node, []) => .ok ([node], [])
  | .ok (node, token :: rest) =>
    if token.kind = separator ∧ rest.length < tokens.length then
      match chain separator item rest with
      | .error e => .error e
      | .ok (nodes, rest) => .ok (node :: nodes, rest)
    else .ok ([node], token :: rest)
termination_by tokens.length
decreasing_by exact (‹_ ∧ _›).2

/-- Chains of the two connectives over one kind of operand, `&&` binding tighter. -/
def connected (item : Rule Node) : Rule Node := fun tokens => do
  let conjunction : Rule Node := fun tokens => do
    let (terms, rest) ← chain .and item tokens
    .ok (.join .and terms, rest)
  let (terms, rest) ← chain .or conjunction tokens
  .ok (.join .or terms, rest)

/-- A quantifier's parentheses; `body` reads what stands between them. -/
def quantified (body : Rule Node) (quantifier : Quantifier) (source : Path) :
    Rule Node := fun tokens => do
  let rest ← expect stop .leftParen .quantifierNotOpened tokens
  let (inner, rest) ←
    match rest with
    | ⟨.rightParen, _, _⟩ :: _ =>
      if quantifier = .all then reject stop .bodyRequired rest else .ok (none, rest)
    | _ => do
      let (node, rest) ← body rest
      .ok (some node, rest)
  let rest ← expect stop .rightParen .quantifierNotClosed rest
  match rest with
  | ⟨.colon, _, _⟩ :: _ => reject stop .secondModifier rest
  | ⟨.dot, _, _⟩ :: _ => reject stop .quantifierNotFinal rest
  | _ => .ok (.quantified quantifier source inner, rest)

/-- What follows a path. -/
def afterPath (body : Rule Node) (path : Path) : Rule Node
  | ⟨.colon, _, _⟩ :: ⟨.quantifier quantifier, _, _⟩ :: rest =>
    quantified stop body quantifier path rest
  | ⟨.colon, _, _⟩ :: ⟨.identifier, name, position⟩ :: rest =>
    if name = "count" then
      match rest with
      | ⟨.dot, _, _⟩ :: _ => reject stop .countNotFinal rest
      | ⟨.colon, _, _⟩ :: _ => reject stop .secondModifier rest
      | _ => comparison stop (.count path) rest
    else reject stop .unknownModifier (⟨.identifier, name, position⟩ :: rest)
  | ⟨.colon, _, _⟩ :: rest => reject stop .unknownModifier rest
  | tokens => comparison stop (.path path) tokens

/-- An operand of the connectives, nested at most so deep. -/
def unary : Nat → Rule Node
  | 0, tokens => reject stop .nestedTooDeeply tokens
  | depth + 1, tokens =>
    match tokens with
    | ⟨.not, _, _⟩ :: rest => do
      let (inner, rest) ← unary depth rest
      .ok (.not inner, rest)
    | ⟨.leftParen, _, _⟩ :: rest => do
      let (inner, rest) ← connected (unary depth) rest
      let rest ← expect stop .rightParen .groupNotClosed rest
      .ok (inner, rest)
    | ⟨.identifier, name, _⟩ :: rest => do
      let (names, rest) ← furtherSegments stop rest
      afterPath stop (connected (unary depth)) (name :: names) rest
    | _ => reject stop .expectedProperty tokens

/-- A filter that takes all tokens. -/
def whole (tokens : List Token) : Except ParseError Node := do
  let (node, rest) ← connected (unary stop maxNesting) tokens
  match rest, stop with
  | [], .ok _ => .ok node
  | _, _ => reject stop .trailingToken rest

end Rules

/-- Reads a filter. -/
def parse (text : String) : Except ParseError Node :=
  let (tokens, stop) := tokens text
  whole stop tokens

end RecordQuery.Filter
