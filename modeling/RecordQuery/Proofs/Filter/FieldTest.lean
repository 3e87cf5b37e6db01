import RecordQuery.Proofs.Filter.Correctness
import RecordQuery.Proofs.Filter.Layout

/-!
# `Proofs.Filter.FieldTest` — filters that compare one field with one literal

Programs make such filters from a name, an operator and a literal. Between the three there is a
space, and the flag that lets the operator ignore case adjoins it. Whatever the literal is, the text
is parsed as one comparison, and compiling it is reading the literal as a value of the field's type.

## Contents
- `fieldTest`: the texts.
- `exists_fieldTest_layout`, `parse_fieldTest`: **a field test is parsed as it was made.**
- `compile_fieldTest`: it compiles as its literal is read.
-/

namespace RecordQuery.Filter

/-- A field, an operator and a literal. -/
def fieldTest (name : String) (op : Operator) (ignoreCase : Bool) (literal : String) : String :=
  name ++ " " ++ op.text ++ (if ignoreCase then ":i" else "") ++ " " ++ literal

/-! ## Its tokens -/

/-- What is neither part of a word nor `=` makes no token longer. -/
theorem TokenKind.StopsBefore.cons {kind : TokenKind} {c : Char} {rest : List Char}
    (hkind : kind ≠ .whitespace) (hword : isWordPart c = false) (hsign : c ≠ '=') :
    kind.StopsBefore (c :: rest) where
  blank hblank := absurd hblank hkind
  word _ := halts_cons hword
  sign _ heq := hsign (Option.some.inj heq)

theorem isIdentifier_i : IsIdentifier "i" := ⟨⟨'i', [], rfl, rfl, rfl⟩, by decide⟩

theorem IsIdentifier.lexeme {name : String} (h : IsIdentifier name) :
    Lexeme .identifier name.toList name.toList := by
  refine .name h.1 ?_
  rw [String.ofList_toList]
  exact h.2

theorem lexeme_operator (op : Operator) : Lexeme (.operator op) op.text.toList op.text.toList := by
  have hspelled : (TokenKind.operator op).spelling ≠ "" := by cases op <;> decide
  exact .sign hspelled

section Layouts

variable {tokens : List Token} {cs : List Char}

theorem Layout.space_cons (h : Layout tokens cs) : Layout tokens (' ' :: cs) :=
  h.gap_append (List.forall_mem_singleton.mpr rfl)

theorem TokenKind.StopsBefore.space {kind : TokenKind} (hkind : kind ≠ .whitespace) :
    kind.StopsBefore (' ' :: cs) :=
  .cons hkind (by decide) (by decide)

/-- An operator with its flag. The flag may adjoin it, since no operator goes on with a colon. -/
theorem operator_layout (op : Operator) (ignoreCase : Bool) (h : Layout tokens cs) :
    ∃ flag, terminals flag = modifierYield "i" ignoreCase ∧
      Layout (⟨.operator op, op.text, 0⟩ :: (flag ++ tokens))
        (op.text.toList ++ ((if ignoreCase then ":i" else "").toList ++ ' ' :: cs)) := by
  cases ignoreCase with
  | false =>
      refine ⟨[], rfl, ?_⟩
      exact .cons (lexeme_operator op) nofun (.space nofun) nofun h.space_cons
  | true =>
      have hi : Layout (⟨.identifier, "i", 0⟩ :: tokens) ("i".toList ++ ' ' :: cs) :=
        .cons isIdentifier_i.lexeme nofun (.space nofun) nofun h.space_cons
      have hspelled : TokenKind.colon.spelling ≠ "" := by decide
      have hcolon : Layout (⟨.colon, ":", 0⟩ :: ⟨.identifier, "i", 0⟩ :: tokens)
          (":".toList ++ ("i".toList ++ ' ' :: cs)) :=
        .cons (.sign hspelled) nofun ⟨nofun, nofun, nofun⟩ nofun hi
      refine ⟨[⟨.colon, ":", 0⟩, ⟨.identifier, "i", 0⟩], rfl, ?_⟩
      exact .cons (lexeme_operator op) nofun (.cons nofun (by decide) (by decide)) nofun hcolon

variable {name literal : String} {op : Operator} {ignoreCase : Bool} {constant : Constant}

theorem exists_fieldTest_layout (hname : IsIdentifier name)
    (hspells : constant.terminal.Spells literal.toList)
    (hreadable : constant.terminal.IsReadable) (op : Operator) (ignoreCase : Bool) :
    ∃ tokens, terminals tokens = .name name :: .sign (.operator op) ::
        (modifierYield "i" ignoreCase ++ [constant.terminal]) ∧
      Layout tokens (fieldTest name op ignoreCase literal).toList := by
  obtain ⟨token, hlexeme, hvisible, hterminal⟩ := hspells.exists_token hreadable
  have hends : Ends [] := nofun
  have hliteral : Layout [token] (literal.toList ++ []) :=
    .cons hlexeme hvisible (hends.stopsBefore hvisible) (fun _ => hends) (.blank nofun)
  obtain ⟨flag, hflag, hoperator⟩ := operator_layout op ignoreCase hliteral
  refine ⟨⟨.identifier, name, 0⟩ :: ⟨.operator op, op.text, 0⟩ :: (flag ++ [token]), ?_, ?_⟩
  · rw [← hflag, ← hterminal]
    show _ :: _ :: terminals (flag ++ [token]) = _
    rw [terminals_append]
    rfl
  · have htext : (fieldTest name op ignoreCase literal).toList = name.toList ++ (' ' ::
        (op.text.toList ++ ((if ignoreCase then ":i" else "").toList ++ ' ' ::
          (literal.toList ++ [])))) := by
      simp only [fieldTest, String.toList_append, List.append_assoc, List.append_nil]
      rfl
    rw [htext]
    exact .cons hname.lexeme nofun (.space nofun) nofun hoperator.space_cons

/-- **A field test is parsed as it was made.** -/
theorem parse_fieldTest (constant : Constant) (hname : IsIdentifier name) (hop : op ≠ .oneOf)
    (hspells : constant.terminal.Spells literal.toList)
    (hreadable : constant.terminal.IsReadable) (ignoreCase : Bool) :
    parse (fieldTest name op ignoreCase literal) =
      .ok (.comparison (.path [name]) op ignoreCase constant.literal) := by
  obtain ⟨tokens, htokens, hlayout⟩ :=
    exists_fieldTest_layout hname hspells hreadable op ignoreCase
  -- One term in one conjunction, by the shortest derivation that there is.
  let derivation : Disjunction :=
    .one (.one (.property ⟨name, []⟩ (.test false (.scalar op hop ignoreCase constant))))
  have hderives : derivation.Derives (fieldTest name op ignoreCase literal) :=
    hlayout.derives htokens.symm
  have hnesting : derivation.nesting = 1 := rfl
  exact hderives.parse_eq (by rw [hnesting]; decide)

end Layouts

/-! ## Its predicate -/

section Compile

variable {catalog : Catalog} {options : CompileOptions} {schema : Schema} {name : String}
  {field : Field} {op : Operator} {ignoreCase : Bool} {literal : Literal}

/-- A field of the schema itself has nothing on its way that may be null. -/
theorem target_field (hfield : schema.field? name = some field)
    (hscalar : field.type.isScalar = true) : (Subject.path [name]).target catalog schema =
      .ok ⟨[name], .field [name], field.type, field.nullable, []⟩ := by
  obtain ⟨-, hname⟩ := Schema.field?_some hfield
  simp only [Subject.target, Catalog.property, Catalog.propertyFrom, Catalog.lookUp, hfield, bind,
    Except.bind, hscalar, if_true]
  rw [← hname]
  rfl

/-- **A field test compiles as its literal is read.** -/
theorem compile_fieldTest (hfield : schema.field? name = some field)
    (hscalar : field.type.isScalar = true) (htext : ignoreCase = true → field.type = .string)
    (hop : op ≠ .oneOf) (hsupports : op.supports field.type = true) (hnull : literal ≠ .null) :
    compile catalog options schema (.comparison (.path [name]) op ignoreCase literal) =
      (literal.coerce catalog field.type name).map fun value =>
        .compare (.field [name]) op (options.bound (foldCase ignoreCase value)) ignoreCase := by
  have hcase : (ignoreCase && field.type != .string) = false := by
    cases ignoreCase with
    | false => rfl
    | true =>
        rw [htext rfl]
        rfl
  rw [compile_comparison (target_field hfield hscalar) hcase,
    bareComparison_value hop hsupports hnull]
  show ((literal.coerce catalog field.type name).map _).map (options.guard []) = _
  cases literal.coerce catalog field.type name with
  | error e => rfl
  | ok value => exact congrArg Except.ok (guard_nil _)

end Compile
end RecordQuery.Filter
