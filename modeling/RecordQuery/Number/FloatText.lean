import RecordQuery.Number.Shortest

/-!
# `RecordQuery.Number.FloatText` — the text of a floating-point number

The digits are the shortest that read back. A layout says which exponents are written out with a
point and how the others look.
-/

namespace RecordQuery

/-- How digits are set out. -/
structure FloatLayout where
  /-- The least and the greatest exponent that is written with a point alone. -/
  least : Int
  greatest : Int
  /-- Whether a positive exponent has its sign. -/
  plus : Bool
  tie : Shortest.Tie

namespace FloatLayout

/-- The layout of values in messages and predicates: `0.0001`, `1e-5`, `1e16`. -/
def plain : FloatLayout := ⟨-4, 15, false, .up⟩

/-- The layout of cursors: `0.00001`, `1e-6`, `1e+16`. -/
def cursor : FloatLayout := ⟨-5, 15, true, .even⟩

/-- Digits with a point, at least one digit on each side of it; `top` is the exponent of the first
digit. -/
def positional (digits : List Char) (top : Int) : List Char :=
  if top < 0 then '0' :: '.' :: List.replicate (-top - 1).toNat '0' ++ digits
  else
    let whole := top.toNat + 1
    if digits.length ≤ whole then
      digits ++ List.replicate (whole - digits.length) '0' ++ ['.', '0']
    else digits.take whole ++ '.' :: digits.drop whole

/-- Digits with a point after the first, unless it is the only one, and an exponent. -/
def scientific (plus : Bool) (digits : List Char) (top : Int) : List Char :=
  let front :=
    match digits with
    | first :: second :: more => first :: '.' :: second :: more
    | digits => digits
  let sign := if top < 0 then ['-'] else if plus then ['+'] else []
  front ++ 'e' :: sign ++ Text.decimalDigits top.natAbs

/-- The text of a magnitude below infinity. -/
def magnitude (layout : FloatLayout) (rank : Nat) : List Char :=
  if rank = 0 then ['0', '.', '0']
  else
    let (n, scale) := Shortest.digits layout.tie rank
    let digits := Text.decimalDigits n
    let top := digits.length - 1 + scale
    if layout.least ≤ top ∧ top ≤ layout.greatest then positional digits top
    else scientific layout.plus digits top

end FloatLayout

/-- The text of a number in a layout. -/
def Binary64.text (layout : FloatLayout) : Binary64 → String
  | nan => "NaN"
  | signed negative rank =>
    let body :=
      if rank.val = topRank then ['i', 'n', 'f'] else layout.magnitude rank
    String.ofList (if negative then '-' :: body else body)

end RecordQuery
