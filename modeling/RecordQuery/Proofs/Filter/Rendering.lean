import RecordQuery.Proofs.Filter.Layout
import RecordQuery.Proofs.Filter.NormalForm

/-!
# `Proofs.Filter.Rendering` — filters written as text

A tree is written word by word. The terms of a chain and the inside of a negation have parentheses
around them if they are chains themselves, whatever binds tighter; a string has quotes of either
sort, with a backslash before the quotes and backslashes in it; white space stands between the
words. The scanner finds these very words in the text, whatever the white space is.

## Contents
- `Node.words`, `Node.nesting`: how a tree is written and how deeply that nests operands.
- `Spaced`, `Node.Renders`, `Node.render`: the texts that write a tree, and one of them.
- `Spaced.exists_layout`: **the text lays out tokens for its words.**
- `Node.Renders.derives`: a derivation of the words of a tree is one of every text that writes it.
-/

namespace RecordQuery.Filter

open Text

/-! ## Words -/

/-- Words with a separator between them. -/
def between (separator : TokenKind) (lists : List (List Terminal)) : List Terminal :=
  [.sign separator].intercalate lists

theorem between_singleton (separator : TokenKind) (words : List Terminal) :
    between separator [words] = words :=
  List.intercalate_singleton

theorem between_cons_cons (separator : TokenKind) (words next : List Terminal)
    (lists : List (List Terminal)) : between separator (words :: next :: lists) =
      words ++ .sign separator :: between separator (next :: lists) := by
  rw [between, List.intercalate_cons_cons, List.append_assoc, List.singleton_append, ← between]

/-- A path, with dots. -/
def pathWords : Path → List Terminal
  | [] => []
  | name :: names => .name name :: separated .dot (names.map .name)

def Subject.words : Subject → List Terminal
  | .path names => pathWords names
  | .count names => pathWords names ++ modifierYield "count" true

mutual

def Literal.words : Literal → List Terminal
  | .number text => [.number text]
  | .string value => [.string value]
  | .boolean value => [.sign (.boolean value)]
  | .null => [.sign .null]
  | .list items =>
    .sign .leftBracket :: (between .comma (Literal.itemWords items) ++ [.sign .rightBracket])

def Literal.itemWords : List Literal → List (List Terminal)
  | [] => []
  | item :: items => item.words :: Literal.itemWords items

end

/-- The words of an operand: a chain has parentheses around it. -/
def Node.enclosed (node : Node) (words : List Terminal) : List Terminal :=
  if node.connective?.isSome then .sign .leftParen :: (words ++ [.sign .rightParen]) else words

mutual

/-- The words of a tree. -/
def Node.words : Node → List Terminal
  | .logical connective terms => between connective.kind (Node.termWords terms)
  | .not inner => .sign .not :: inner.enclosed inner.words
  | .comparison left op ignoreCase right =>
    left.words ++ .sign (.operator op) :: (modifierYield "i" ignoreCase ++ right.words)
  | .quantified quantifier source none =>
    pathWords source ++
      [.sign .colon, .sign (.quantifier quantifier), .sign .leftParen, .sign .rightParen]
  | .quantified quantifier source (some body) =>
    pathWords source ++ .sign .colon :: .sign (.quantifier quantifier) :: .sign .leftParen ::
      (body.words ++ [.sign .rightParen])

def Node.termWords : List Node → List (List Terminal)
  | [] => []
  | term :: terms => term.enclosed term.words :: Node.termWords terms

end

/-- How many parentheses an operand has around it. -/
def Node.groups (node : Node) : Nat := if node.connective?.isSome then 1 else 0

mutual

/-- How many operands lie in each other in the words of a tree. -/
def Node.nesting : Node → Nat
  | .logical _ terms => Node.termNesting terms
  | .not inner => inner.nesting + inner.groups + 1
  | .quantified _ _ (some body) => body.nesting + 1
  | .quantified _ _ none => 1
  | .comparison _ _ _ _ => 1

def Node.termNesting : List Node → Nat
  | [] => 0
  | term :: terms => max (term.nesting + term.groups) (Node.termNesting terms)

end

/-! ## Texts -/

/-- The text has these words, with white space after each of them; only the last one need not have
any. -/
inductive Spaced : List Terminal → List Char → Prop where
  | nil : Spaced [] []
  | cons {word : Terminal} {words : List Terminal} {text gap rest : List Char}
      (spells : word.Spells text) (blank : ∀ c ∈ gap, isBlank c = true)
      (apart : words ≠ [] → gap ≠ []) (more : Spaced words rest) :
      Spaced (word :: words) (text ++ (gap ++ rest))

/-- The text writes the tree: its words, with white space between them and perhaps around them. -/
def Node.Renders (node : Node) (text : String) : Prop :=
  ∃ gap rest, text.toList = gap ++ rest ∧ (∀ c ∈ gap, isBlank c = true) ∧ Spaced node.words rest

/-- A text of a terminal, with double quotes around a string. -/
def Terminal.text : Terminal → List Char
  | .sign kind => kind.spelling.toList
  | .name text | .number text => text.toList
  | .string text => '"' :: (quotedBody '"' text.toList ++ ['"'])

/-- The text of a tree with single spaces between its words. -/
def Node.render (node : Node) : String :=
  String.ofList ([' '].intercalate (node.words.map Terminal.text))

theorem Terminal.spells_text (terminal : Terminal) : terminal.Spells terminal.text := by
  cases terminal with
  | sign kind => exact .sign kind
  | name text => exact .name text
  | number text => exact .number text
  | string text => exact .string (Or.inl rfl) text

theorem spaced_intercalate (words : List Terminal) :
    Spaced words ([' '].intercalate (words.map Terminal.text)) := by
  induction words with
  | nil => exact .nil
  | cons word words ih =>
      cases words with
      | nil =>
          have hspaced : Spaced [word] (word.text ++ ([] ++ [])) :=
            .cons word.spells_text nofun (absurd rfl) .nil
          rw [List.append_nil, List.append_nil] at hspaced
          rwa [List.map_singleton, List.intercalate_singleton]
      | cons next words =>
          rw [List.map_cons, List.map_cons, List.intercalate_cons_cons, List.append_assoc,
            ← List.map_cons]
          refine .cons word.spells_text ?_ (fun _ => List.cons_ne_nil _ _) ih
          exact List.forall_mem_singleton.mpr rfl

/-- **Single spaces are one way to write a tree.** -/
theorem Node.renders_render (node : Node) : node.Renders node.render := by
  refine ⟨[], [' '].intercalate (node.words.map Terminal.text), ?_, nofun, spaced_intercalate _⟩
  rw [render, String.toList_ofList, List.nil_append]

/-! ## The words of a text -/

/-- **A text with these words lays out tokens for them.** -/
theorem Spaced.exists_layout {words : List Terminal} {text : List Char} (h : Spaced words text)
    (hreadable : AllReadable words) :
    ∃ tokens, Layout tokens text ∧ terminals tokens = words := by
  induction h with
  | nil => exact ⟨[], .blank nofun, rfl⟩
  | @cons word words text gap rest spells blank apart more ih =>
      obtain ⟨hword, hmore⟩ := allReadable_cons.mp hreadable
      obtain ⟨token, hlexeme, hvisible, hterminal⟩ := spells.exists_token hword
      obtain ⟨tokens, hlayout, htokens⟩ := ih hmore
      have hends : Ends (gap ++ rest) := by
        refine ends_gap blank fun hgap => ?_
        cases more with
        | nil => rfl
        | cons => exact absurd hgap (apart (List.cons_ne_nil _ _))
      refine ⟨token :: tokens, ?_, List.cons_eq_cons.mpr ⟨hterminal, htokens⟩⟩
      exact .cons hlexeme hvisible (hends.stopsBefore hvisible) (fun _ => hends)
        (hlayout.gap_append blank)

/-- A derivation of the words of a tree is one of every text that writes the tree. -/
theorem Node.Renders.derives {node : Node} {text : String} {d : Disjunction}
    (h : node.Renders text) (hreadable : AllReadable node.words) (hyield : d.yield = node.words) :
    d.Derives text := by
  obtain ⟨gap, rest, htext, hgap, hspaced⟩ := h
  obtain ⟨tokens, hlayout, htokens⟩ := hspaced.exists_layout hreadable
  have htext : Layout tokens text.toList := by
    rw [htext]
    exact hlayout.gap_append hgap
  exact htext.derives (hyield.trans htokens.symm)

end RecordQuery.Filter
