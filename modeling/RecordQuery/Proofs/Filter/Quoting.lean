import RecordQuery.Proofs.Filter.FieldTest

/-!
# `Proofs.Filter.Quoting` — quoted texts are safe

A program that puts a text of a user into a filter writes it between quotes of either sort, with a
backslash before each quote of that sort and before each backslash. Whatever the text is, the
scanner takes it as one string with this very text and goes on behind the second quote. So the text
can neither end the string nor be changed by it.

## Contents
- `quoted`: the text between quotes.
- `next_quoted`: it is one token.
- `quoted_safe`: **the token and the field test made of it have the very text.**
-/

namespace RecordQuery.Filter

/-- A text between two quotes, with a backslash before each such quote and each backslash in it. -/
def quoted (quote : Char) (text : String) : String :=
  String.ofList (quote :: (quotedBody quote text.toList ++ [quote]))

section Quoting

variable {quote : Char}

theorem toList_quoted (quote : Char) (text : String) :
    (quoted quote text).toList = quote :: (quotedBody quote text.toList ++ [quote]) :=
  String.toList_ofList

/-- A quoted text is a lexeme that nothing makes longer. -/
theorem next_quoted (hquote : IsQuote quote) (text : String) (following : List Char)
    (position : Nat) :
    (⟨(quoted quote text).toList ++ following, position⟩ : Scanner).next =
      (.ok ⟨.string, text, position⟩, ⟨following, position + (quoted quote text).length⟩) := by
  have hlexeme : Lexeme .string text.toList (quoted quote text).toList := by
    rw [toList_quoted]
    exact .string hquote (standsFor_quotedBody quote text.toList)
  have hstops := TokenKind.stopsBefore_string following
  have hnext := Scanner.next_of_readFront (hlexeme.readFront_append hstops nofun) position
  rw [List.drop_left, String.ofList_toList, String.length_toList] at hnext
  exact hnext

/-- **Quoted texts are safe.** A quoted text is one string, whatever stands behind it. A field test
with it, by any operator but `in`, is parsed as one comparison with the very text, and compiles to a
test against it, or against its lower case where case is ignored. -/
theorem quoted_safe (hquote : IsQuote quote) (text : String) :
    (∀ following position, (⟨(quoted quote text).toList ++ following, position⟩ : Scanner).next =
      (.ok ⟨.string, text, position⟩, ⟨following, position + (quoted quote text).length⟩)) ∧
    ∀ (catalog : Catalog) (options : CompileOptions) (schema : Schema) (name : String)
      (field : Field) (op : Operator) (ignoreCase : Bool), IsIdentifier name →
      schema.field? name = some field → field.type = .string → op ≠ .oneOf →
      parse (fieldTest name op ignoreCase (quoted quote text)) =
        .ok (.comparison (.path [name]) op ignoreCase (.string text)) ∧
      compile catalog options schema (.comparison (.path [name]) op ignoreCase (.string text)) =
        .ok (.compare (.field [name]) op
          ⟨.string (if ignoreCase then Text.lower text else text), options.parameterizeValues⟩
          ignoreCase) := by
  refine ⟨next_quoted hquote text, ?_⟩
  intro catalog options schema name field op ignoreCase hname hfield htype hop
  constructor
  · have hspells : (Constant.string text).terminal.Spells (quoted quote text).toList := by
      rw [toList_quoted]
      exact .string hquote text
    exact parse_fieldTest (.string text) hname hop hspells trivial ignoreCase
  · have hsupports : op.supports field.type = true := by
      rw [htype]
      cases op <;> rfl
    have hscalar : field.type.isScalar = true := by
      rw [htype]
      rfl
    have hnull : Literal.string text ≠ .null := nofun
    rw [compile_fieldTest hfield hscalar (fun _ => htype) hop hsupports hnull, htype]
    cases ignoreCase <;> rfl

/-- Both sorts of quotes, a backslash that escapes nothing, and one at the end. -/
def awkward : String := "it's \"\\n\" \\"

theorem quoted_safe_awkward :
    quoted '\'' awkward = "'it\\'s \"\\\\n\" \\\\'" ∧
      parse (fieldTest "name" .eq true (quoted '\'' awkward)) =
        .ok (.comparison (.path ["name"]) .eq true (.string awkward)) ∧
      compile ⟨[]⟩ default ⟨"Person", [⟨"name", .string, true⟩]⟩
          (.comparison (.path ["name"]) .eq true (.string awkward)) =
        .ok (.compare (.field ["name"]) .eq ⟨.string (Text.lower awkward), false⟩ true) := by
  have hname : IsIdentifier "name" := ⟨⟨'n', ['a', 'm', 'e'], rfl, rfl, rfl⟩, by decide⟩
  have hquote : IsQuote '\'' := .inr rfl
  exact ⟨by decide, (quoted_safe hquote awkward).2 _ _ _ _ _ _ _ hname rfl rfl (by decide)⟩

end Quoting
end RecordQuery.Filter
