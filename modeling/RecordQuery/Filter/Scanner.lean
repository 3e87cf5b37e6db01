import RecordQuery.Filter.Token
import RecordQuery.Text.Blank
import RecordQuery.Text.Digits

/-!
# `RecordQuery.Filter.Scanner` — cutting a text into tokens

`readFront` says what the front of a text reads as and how many characters that takes. A `Scanner`
walks over a text with it; a `Lookahead` leaves out white space and can look at the next token
without taking it; `drain` takes all tokens up to the end or the first error.
-/

namespace RecordQuery.Filter

open Text

/-! ## Runs of characters -/

def isWordStart (c : Char) : Bool := ('a' ≤ c && c ≤ 'z') || ('A' ≤ c && c ≤ 'Z') || c == '_'

def isWordPart (c : Char) : Bool := isWordStart c || isDigit c

/-- How many characters of the class stand at the front. -/
def runWidth (p : Char → Bool) (cs : List Char) : Nat := (cs.takeWhile p).length

/-- The width of an optional sign. -/
def signWidth : List Char → Nat
  | '+' :: _ | '-' :: _ => 1
  | _ => 0

/-- A stretch of characters and whether it is complete as it stands. -/
structure Stretch where
  complete : Bool
  width : Nat
deriving DecidableEq

/-- An optional point with at least one digit after it. -/
def fraction : List Char → Stretch
  | '.' :: cs =>
    let digits := runWidth isDigit cs
    ⟨digits != 0, 1 + digits⟩
  | _ => ⟨true, 0⟩

/-- An optional exponent: `e`, an optional sign and at least one digit. -/
def exponent : List Char → Stretch
  | c :: cs =>
    if c = 'e' ∨ c = 'E' then
      let sign := signWidth cs
      let digits := runWidth isDigit (cs.drop sign)
      ⟨digits != 0, 1 + sign + digits⟩
    else ⟨true, 0⟩
  | [] => ⟨true, 0⟩

/-- A number literal, up to its end or up to where a digit is missing. -/
def numeral (cs : List Char) : Stretch :=
  let sign := signWidth cs
  let whole := sign + runWidth isDigit (cs.drop sign)
  let part := fraction (cs.drop whole)
  if part.complete then
    let power := exponent (cs.drop (whole + part.width))
    ⟨power.complete, whole + part.width + power.width⟩
  else ⟨false, whole + part.width⟩

/-- What a string literal stands for and how many characters remain of it, its last quote included;
nothing if it is never closed. A backslash is dropped before the quote and before a backslash. -/
def stringBody (quote : Char) : List Char → Option (List Char × Nat)
  | [] => none
  | c :: cs =>
    if c = quote then some ([], 1)
    else if c = '\\' then
      match cs with
      | [] => none
      | d :: cs =>
        (stringBody quote cs).map fun (body, n) =>
          (if d = quote ∨ d = '\\' then d :: body else '\\' :: d :: body, n + 2)
    else (stringBody quote cs).map fun (body, n) => (c :: body, n + 1)

/-! ## The front of a text -/

/-- What the front of a text reads as, and how many characters that takes. -/
inductive Reading where
  | lexeme (kind : TokenKind) (text : List Char) (width : Nat)
  | failure (error : Nat → LexError) (width : Nat)

namespace Reading

/-- A token whose text is what was written. -/
def plain (kind : TokenKind) (cs : List Char) (width : Nat) : Reading :=
  .lexeme kind (cs.take width) width

def width : Reading → Nat
  | lexeme _ _ n | failure _ n => n

end Reading

/-- Punctuation and the operators made of signs: the longest one that stands at the front. -/
def sign? : List Char → Option (TokenKind × Nat)
  | '(' :: _ => some (.leftParen, 1)
  | ')' :: _ => some (.rightParen, 1)
  | '[' :: _ => some (.leftBracket, 1)
  | ']' :: _ => some (.rightBracket, 1)
  | ',' :: _ => some (.comma, 1)
  | '.' :: _ => some (.dot, 1)
  | ':' :: _ => some (.colon, 1)
  | '&' :: '&' :: _ => some (.and, 2)
  | '|' :: '|' :: _ => some (.or, 2)
  | '!' :: '=' :: _ => some (.operator .ne, 2)
  | '!' :: _ => some (.not, 1)
  | '=' :: '=' :: _ => some (.operator .eq, 2)
  | '<' :: '=' :: _ => some (.operator .le, 2)
  | '<' :: _ => some (.operator .lt, 1)
  | '>' :: '=' :: _ => some (.operator .ge, 2)
  | '>' :: _ => some (.operator .gt, 1)
  | '%' :: '=' :: _ => some (.operator .contains, 2)
  | '^' :: '=' :: _ => some (.operator .startsWith, 2)
  | '$' :: '=' :: _ => some (.operator .endsWith, 2)
  | _ => none

/-- Whether a number literal starts here: a digit, or a sign with a digit after it. -/
def startsNumeral : List Char → Bool
  | c :: d :: _ => isDigit c || ((c == '+' || c == '-') && isDigit d)
  | [c] => isDigit c
  | [] => false

def readWord (cs : List Char) : Reading :=
  let width := runWidth isWordPart cs
  .plain (.ofWord (String.ofList (cs.take width))) cs width

def readNumeral (cs : List Char) : Reading :=
  let stretch := numeral cs
  if stretch.complete then .plain .number cs stretch.width
  else .failure (.malformedNumber (String.ofList (cs.take stretch.width))) stretch.width

/-- A text that starts with a quote. -/
def readString (quote : Char) (cs : List Char) : Reading :=
  match stringBody quote cs with
  | some (body, n) => .lexeme .string body (n + 1)
  | none => .failure .unterminatedString (cs.length + 1)

/-- What the front of a text reads as. -/
def readFront : List Char → Reading
  | [] => .lexeme .endOfText [] 0
  | c :: cs =>
    if isBlank c then .plain .whitespace (c :: cs) (runWidth isBlank (c :: cs))
    else
      match sign? (c :: cs) with
      | some (kind, width) => .plain kind (c :: cs) width
      | none =>
        if isWordStart c then readWord (c :: cs)
        else if startsNumeral (c :: cs) then readNumeral (c :: cs)
        else if c = '"' ∨ c = '\'' then readString c cs
        else .failure (.unexpectedCharacter c) 0

/-! ## Walking over a text -/

/-- A place in a text: what is left of it and how much came before. -/
structure Scanner where
  rest : List Char
  position : Nat
deriving DecidableEq

namespace Scanner

/-- At the start of a text. -/
def ofText (text : String) : Scanner := ⟨text.toList, 0⟩

/-- The next token, white space being one too. At the end of the text that is the end, again and
again; at an unexpected character it is the same error, again and again. -/
def next (s : Scanner) : Except LexError Token × Scanner :=
  let reading := readFront s.rest
  let after : Scanner := ⟨s.rest.drop reading.width, s.position + reading.width⟩
  match reading with
  | .lexeme kind text _ => (.ok ⟨kind, String.ofList text, s.position⟩, after)
  | .failure error _ => (.error (error s.position), after)

/-- The next token that is not white space. Two white space tokens never follow each other. -/
def fetch (s : Scanner) : Except LexError Token × Scanner :=
  match s.next with
  | (.ok token, after) => if token.kind = .whitespace then after.next else (.ok token, after)
  | failure => failure

/-- All tokens that `step` takes until the end of the text or an error, and which of the two stops
it. A token that takes no characters would stop it too, but there is none. -/
def drain (step : Scanner → Except LexError Token × Scanner) (s : Scanner) :
    List Token × Except LexError Token :=
  match step s with
  | (.error e, _) => ([], .error e)
  | (.ok token, after) =>
    if token.kind = .endOfText then ([], .ok token)
    else if after.rest.length < s.rest.length then
      let (tokens, stop) := drain step after
      (token :: tokens, stop)
    else ([], .ok token)
termination_by s.rest.length

end Scanner

/-- The tokens of a text, white space included, and what stops them. -/
def lex (text : String) : List Token × Except LexError Token :=
  (Scanner.ofText text).drain Scanner.next

/-- The tokens of a text without white space, and what stops them. -/
def tokens (text : String) : List Token × Except LexError Token :=
  (Scanner.ofText text).drain Scanner.fetch

/-! ## Looking ahead -/

/-- A scanner that may hold the next token already. -/
structure Lookahead where
  scanner : Scanner
  held : Option Token

namespace Lookahead

def ofText (text : String) : Lookahead := ⟨.ofText text, none⟩

/-- Takes the next token that is not white space. -/
def next (s : Lookahead) : Except LexError Token × Lookahead :=
  match s.held with
  | some token => (.ok token, ⟨s.scanner, none⟩)
  | none =>
    let (result, scanner) := s.scanner.fetch
    (result, ⟨scanner, none⟩)

/-- Looks at the next token that is not white space; the next call gives it again. -/
def peek (s : Lookahead) : Except LexError Token × Lookahead :=
  match s.held with
  | some token => (.ok token, s)
  | none =>
    match s.scanner.fetch with
    | (.ok token, scanner) => (.ok token, ⟨scanner, some token⟩)
    | (.error e, scanner) => (.error e, ⟨scanner, none⟩)

end Lookahead
end RecordQuery.Filter
