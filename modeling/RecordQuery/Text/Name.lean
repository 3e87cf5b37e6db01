import RecordQuery.Text.LowerCase
import RecordQuery.Text.NameTable

/-!
# `RecordQuery.Text.Name` — names, and names in the spelling of constants

A name starts with a letter or a low line and goes on with letters, marks, digits and low lines.
`constantCase` spells a name in capitals, its words divided by low lines.
-/

namespace RecordQuery.Text

def isNameStart (c : Char) : Bool := c == '_' || inRanges nameStartRanges c.toNat

def isNamePart (c : Char) : Bool := isNameStart c || inRanges nameTailRanges c.toNat

/-- Whether the text as a whole is a name. -/
def isName : List Char → Bool
  | [] => false
  | c :: cs => isNameStart c && cs.all isNamePart

/-- Capitals, with a low line in front of each one that follows a character of a word written small.
Hyphens become low lines; small letters beyond ASCII stay as they are. -/
def constantCaseAfter (small : Bool) : List Char → List Char
  | [] => []
  | c :: cs =>
    if isUpper c then
      if small then '_' :: c :: constantCaseAfter false cs else c :: constantCaseAfter false cs
    else if c = '_' ∨ c = '-' then '_' :: constantCaseAfter false cs
    else c.toUpper :: constantCaseAfter true cs

/-- A name as constants are spelled. -/
def constantCase (name : String) : String := String.ofList (constantCaseAfter false name.toList)

example : constantCase "createdAt" = "CREATED_AT" ∧ constantCase "HTTPServer" = "HTTPSERVER" ∧
    constantCase "unit-price2Go" = "UNIT_PRICE2_GO" := by decide +kernel

end RecordQuery.Text
