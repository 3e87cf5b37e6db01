import RecordQuery.Operator

/-!
# `RecordQuery.Filter.Token` — the words of the filter language

A token has a kind, a text and the place of its first character. The text is what was written, but
for a string literal, where it is what the literal stands for.
-/

namespace RecordQuery.Filter

/-- The two ways to look at the elements of a collection. -/
inductive Quantifier where
  | any
  | all
deriving DecidableEq, Inhabited

/-- The keyword of a quantifier. -/
def Quantifier.text : Quantifier → String
  | .any => "any"
  | .all => "all"

inductive TokenKind where
  | leftParen
  | rightParen
  | leftBracket
  | rightBracket
  | comma
  | dot
  | colon
  | and
  | or
  | not
  | operator (op : Operator)
  | boolean (value : Bool)
  | null
  | quantifier (quantifier : Quantifier)
  | number
  | string
  | identifier
  | whitespace
  | endOfText
deriving DecidableEq, Inhabited

namespace TokenKind

/-- The kind as error messages call it. -/
def label : TokenKind → String
  | leftParen => "'('"
  | rightParen => "')'"
  | leftBracket => "'['"
  | rightBracket => "']'"
  | comma => "','"
  | dot => "'.'"
  | colon => "':'"
  | and => "'&&'"
  | or => "'||'"
  | not => "'!'"
  | operator _ => "operator"
  | boolean _ => "boolean"
  | null => "null"
  | quantifier _ => "quantifier"
  | number => "number"
  | string => "string"
  | identifier => "identifier"
  | whitespace => "whitespace"
  | endOfText => "end of input"

/-- Whether the token is a comparison operator, `in` included. -/
def isComparison : TokenKind → Bool
  | operator _ => true
  | _ => false

/-- A word is a keyword or else a name. -/
def ofWord (word : String) : TokenKind :=
  match word with
  | "true" => boolean true
  | "false" => boolean false
  | "null" => null
  | "any" => quantifier .any
  | "all" => quantifier .all
  | "in" => operator .oneOf
  | _ => identifier

end TokenKind

structure Token where
  kind : TokenKind
  text : String
  /-- The number of characters before the token. -/
  position : Nat
deriving DecidableEq, Inhabited

/-- Why a text cannot be cut into tokens. -/
inductive LexError where
  | unexpectedCharacter (character : Char) (position : Nat)
  | unterminatedString (position : Nat)
  | malformedNumber (text : String) (position : Nat)
deriving DecidableEq, Inhabited

namespace LexError

/-- Where the offending token starts. -/
def position : LexError → Nat
  | unexpectedCharacter _ p | unterminatedString p | malformedNumber _ p => p

def message : LexError → String
  | unexpectedCharacter c p =>
    "unexpected character '" ++ c.toString ++ "' at position " ++ toString p
  | unterminatedString p => "unterminated string literal starting at position " ++ toString p
  | malformedNumber text p => "malformed number '" ++ text ++ "' at position " ++ toString p

end LexError
end RecordQuery.Filter
