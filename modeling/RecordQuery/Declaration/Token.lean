import RecordQuery.Text.Blank
import RecordQuery.Text.Digits
import RecordQuery.Text.Name

/-!
# `RecordQuery.Declaration.Token` — the words of a type declaration

A declaration is cut into words, lifetimes, literals and single signs, and whatever stands between
two brackets is one token that holds the tokens inside. `readTokens` fails where a bracket or a
literal is not closed, and at characters that start no token.
-/

namespace RecordQuery.Declaration

open Text

inductive Bracket where
  | round
  | square
  | curly
deriving DecidableEq, Inhabited

inductive LiteralKind where
  /-- A string, with what it stands for. -/
  | text (value : String)
  | number
  /-- A single character, or bytes. -/
  | other
deriving DecidableEq, Inhabited

inductive Token where
  | word (text : String)
  | lifetime (name : String)
  | literal (text : String) (kind : LiteralKind)
  /-- One sign, and whether another sign follows it at once. -/
  | sign (character : Char) (joined : Bool)
  | group (bracket : Bracket) (content : List Token)
deriving Inhabited

def Bracket.opening : Bracket → String
  | round => "("
  | square => "["
  | curly => "\x7b"

def Bracket.closing : Bracket → String
  | round => ")"
  | square => "]"
  | curly => "\x7d"

mutual
/-- A token as it is written. -/
def Token.text : Token → String
  | .word text => text
  | .lifetime name => "'" ++ name
  | .literal text _ => text
  | .sign c _ => c.toString
  | .group bracket content => bracket.opening ++ textOf content ++ bracket.closing

/-- The tokens one after the other, with nothing in between. -/
def textOf : List Token → String
  | [] => ""
  | token :: tokens => token.text ++ textOf tokens
end

mutual
/-- How many tokens a token is, those inside it included. -/
def Token.size : Token → Nat
  | .group _ content => totalSize content + 1
  | _ => 1

def totalSize : List Token → Nat
  | [] => 0
  | token :: tokens => token.size + totalSize tokens
end

/-! ## Words and literals -/

/-- Words that mean something by themselves even where they are marked as plain names. -/
def unmarkable : List String := ["_", "super", "self", "Self", "crate"]

/-- The word at the front. The mark `r#` makes a plain name of a keyword and stays with it. -/
def frontWord : List Char → Option (String × List Char)
  | 'r' :: '#' :: c :: cs =>
    let name := String.ofList (c :: cs.takeWhile isNamePart)
    if isNameStart c && !unmarkable.contains name then
      some ("r#" ++ name, cs.dropWhile isNamePart)
    else none
  | c :: cs =>
    if isNameStart c then
      some (String.ofList (c :: cs.takeWhile isNamePart), cs.dropWhile isNamePart)
    else none
  | [] => none

/-- Where the reader of a string stands. -/
inductive StringState where
  | plain
  /-- After a line break that a backslash takes out, with the blanks that follow it. -/
  | lineBreak
  /-- Inside the code of a character, with its value so far. -/
  | code (value : Nat)

/-- What a string stands for and what follows it, read from behind its opening quote. -/
def stringBody : StringState → List Char → Option (List Char × List Char)
  | _, [] => none
  | .code value, c :: cs =>
    if c = '\x7d' then
      if value.isValidChar then (stringBody .plain cs).map fun (s, r) => (Char.ofNat value :: s, r)
      else none
    else if c = '_' then stringBody (.code value) cs
    else do stringBody (.code (value * 16 + (← hexDigit? c))) cs
  | _, '"' :: cs => some ([], cs)
  | _, '\\' :: 'x' :: a :: b :: cs => do
    let code := (← hexDigit? a) * 16 + (← hexDigit? b)
    if 0x80 ≤ code then none
    else (stringBody .plain cs).map fun (s, r) => (Char.ofNat code :: s, r)
  | _, '\\' :: 'u' :: '\x7b' :: cs => stringBody (.code 0) cs
  | _, '\\' :: c :: cs =>
    let plainly (d : Char) := (stringBody .plain cs).map fun (s, r) => (d :: s, r)
    match c with
    | 'n' => plainly '\n'
    | 'r' => plainly '\r'
    | 't' => plainly '\t'
    | '0' => plainly '\x00'
    | '\\' => plainly '\\'
    | '\'' => plainly '\''
    | '"' => plainly '"'
    | '\n' => stringBody .lineBreak cs
    | _ => none
  | state, c :: cs =>
    match state with
    | .lineBreak =>
      if isBlank c then stringBody .lineBreak cs
      else (stringBody .plain cs).map fun (s, r) => (c :: s, r)
    | _ => (stringBody .plain cs).map fun (s, r) => (c :: s, r)

/-- The text before the mark and what follows the mark. -/
def cutAt (mark : List Char) : List Char → Option (List Char × List Char)
  | [] => none
  | c :: cs =>
    if mark.isPrefixOf (c :: cs) then some ([], (c :: cs).drop mark.length)
    else (cutAt mark cs).map fun (s, r) => (c :: s, r)

/-- A string without escapes, read from behind its `r`: it ends at a quote with as many hashes
behind it as stand before the first one. -/
def rawString (cs : List Char) : Option (List Char × List Char) :=
  let hashes := cs.takeWhile (· = '#')
  match cs.drop hashes.length with
  | '"' :: cs => cutAt ('"' :: hashes) cs
  | _ => none

/-- What follows a single quoted character, read from behind its opening quote. -/
def afterCharacter : List Char → Option (List Char)
  | '\\' :: _ :: cs => (cutAt ['\''] cs).map (·.2)
  | _ :: '\'' :: cs => some cs
  | _ => none

/-- What follows a number. A point belongs to it unless a name or another point comes after. -/
def afterNumber (cs : List Char) : List Char :=
  let exponent (cs rest : List Char) : List Char :=
    let whole := cs.takeWhile isNamePart
    match whole.getLast?, rest with
    | some 'e', s :: d :: _ | some 'E', s :: d :: _ =>
      if (s = '+' ∨ s = '-') ∧ isDigit d ∧ whole.dropLast.all (fun c => isDigit c || c == '_') then
        rest.tail.dropWhile isNamePart
      else rest
    | _, _ => rest
  match cs.dropWhile isNamePart with
  | '.' :: c :: rest =>
    if isNameStart c || c == '.' then '.' :: c :: rest
    else exponent (c :: rest) ((c :: rest).dropWhile isNamePart)
  | ['.'] => []
  | rest => exponent cs rest

/-- The literal at the front: its kind and what follows it. -/
def frontLiteral : List Char → Option (LiteralKind × List Char)
  | '"' :: cs => (stringBody .plain cs).map fun (s, r) => (.text (String.ofList s), r)
  | 'b' :: 'r' :: cs | 'c' :: 'r' :: cs => (rawString cs).map fun (_, r) => (.other, r)
  | 'b' :: '"' :: cs | 'c' :: '"' :: cs => (stringBody .plain cs).map fun (_, r) => (.other, r)
  | 'b' :: '\'' :: cs | '\'' :: cs => (afterCharacter cs).map fun r => (.other, r)
  | 'r' :: cs => (rawString cs).map fun (s, r) => (.text (String.ofList s), r)
  | c :: cs => if isDigit c then some (.number, afterNumber (c :: cs)) else none
  | [] => none

/-! ## Cutting a text -/

/-- A piece of a text: a token that holds no others, or a bracket. -/
inductive Fragment where
  | token (token : Token)
  | opening (bracket : Bracket)
  | closing (bracket : Bracket)

def isSign (c : Char) : Bool := "~!@#$%^&*-=+|;:,<.>/?'".toList.contains c

/-- What follows a comment, read from behind its `/*`; comments may stand inside comments. -/
def afterComment : Nat → List Char → Option (List Char)
  | _, [] => none
  | depth, '/' :: '*' :: cs => afterComment (depth + 1) cs
  | 0, '*' :: '/' :: cs => some cs
  | depth + 1, '*' :: '/' :: cs => afterComment depth cs
  | depth, _ :: cs => afterComment depth cs

/-- The piece at the front of a text that does not start blank, and what follows it; nothing in
place of the piece if it is a comment. -/
def frontFragment : List Char → Option (Option Fragment × List Char)
  | [] => none
  | '/' :: '/' :: cs => some (none, cs.dropWhile (· ≠ '\n'))
  | '/' :: '*' :: cs => (afterComment 0 cs).map fun r => (none, r)
  | '(' :: cs => some (some (.opening .round), cs)
  | ')' :: cs => some (some (.closing .round), cs)
  | '[' :: cs => some (some (.opening .square), cs)
  | ']' :: cs => some (some (.closing .square), cs)
  | '\x7b' :: cs => some (some (.opening .curly), cs)
  | '\x7d' :: cs => some (some (.closing .curly), cs)
  | c :: cs =>
    match frontLiteral (c :: cs) with
    | some (kind, after) =>
      let suffixed := (after.head?.map isNameStart).getD false
      let rest := if suffixed then after.dropWhile isNamePart else after
      let text := String.ofList ((c :: cs).take (cs.length + 1 - rest.length))
      some (some (.token (.literal text kind)), rest)
    | none =>
      if c = '\'' then (frontWord cs).map fun (name, r) => (some (.token (.lifetime name)), r)
      else if isSign c then
        let comment := ['/', '/'].isPrefixOf cs || ['/', '*'].isPrefixOf cs
        let joined := (cs.head?.map isSign).getD false && !comment
        some (some (.token (.sign c joined)), cs)
      else (frontWord (c :: cs)).map fun (text, r) => (some (.token (.word text)), r)

/-- The pieces of a text; a text has no more of them than characters. -/
def fragments : Nat → List Char → Option (List Fragment)
  | _, [] => some []
  | 0, _ => none
  | n + 1, c :: cs =>
    if isBlank c then fragments n cs
    else do
      let (fragment, rest) ← frontFragment (c :: cs)
      return fragment.toList ++ (← fragments n rest)

/-- Puts what stands between brackets into one token. `outer` holds the brackets that are open,
innermost first, each with the tokens before it, and `here` the tokens behind the last of them, both
from back to front. -/
def nest : List Fragment → List (Bracket × List Token) → List Token → Option (List Token)
  | [], [], here => some here.reverse
  | [], _ :: _, _ => none
  | .token token :: rest, outer, here => nest rest outer (token :: here)
  | .opening bracket :: rest, outer, here => nest rest ((bracket, here) :: outer) []
  | .closing _ :: _, [], _ => none
  | .closing bracket :: rest, (opened, before) :: outer, here =>
    if bracket = opened then nest rest outer (.group bracket here.reverse :: before) else none

/-- The tokens of a text. -/
def readTokens (text : String) : Option (List Token) := do
  nest (← fragments text.length text.toList) [] []

end RecordQuery.Declaration
