import RecordQuery.Text.CaseTable

/-!
# `RecordQuery.Text.LowerCase` — lower case for all of Unicode

A character is lowered by itself, with one exception: a capital sigma that ends a word becomes the
final sigma. "Ends a word" looks past the characters that case rules ignore, on both sides.
-/

namespace RecordQuery.Text

def isCased (c : Char) : Bool := inRanges casedRanges c.toNat

def isCaseIgnorable (c : Char) : Bool := inRanges caseIgnorableRanges c.toNat

/-- The property `Uppercase`. -/
def isUpper (c : Char) : Bool := upperRuns.any fun r => r.contains c.toNat

/-- The lower-case form of one character out of context; only `İ` has two characters there. -/
def lowerChar (c : Char) : List Char :=
  if c.toNat < 0x80 then [c.toLower]
  else if c = 'İ' then ['i', '\u0307']
  else
    match lowerRuns.find? fun r => r.contains c.toNat with
    | some r => [Char.ofNat ((c.toNat : Int) + r.offset).toNat]
    | none => [c]

/-- Whether the first character that case rules do not ignore is a cased one. -/
def casedAhead (cs : List Char) : Bool :=
  match cs.dropWhile isCaseIgnorable with
  | c :: _ => isCased c
  | [] => false

/-- Lowers a text, `before` being what stands to its left, nearest character first. -/
def lowerAfter (before : List Char) : List Char → List Char
  | [] => []
  | c :: cs =>
    let here :=
      if c = 'Σ' then
        if casedAhead before && !casedAhead cs then ['ς'] else ['σ']
      else lowerChar c
    here ++ lowerAfter (c :: before) cs

/-- The lower-case form of a text. -/
def lower (s : String) : String := String.ofList (lowerAfter [] s.toList)

/-- A sigma at the end of a word is lowered to another letter than one inside it. -/
example : lower "ΑΣ" = "ας" ∧ lower "ΑΣΒ" = "ασβ" ∧ lower "Σ" = "σ" := by decide +kernel

end RecordQuery.Text
