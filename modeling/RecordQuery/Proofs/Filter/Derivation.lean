import RecordQuery.Filter.Grammar

/-!
# `Proofs.Filter.Derivation` — the grammar of filters as derivation trees

    Disjunction := Conjunction ('||' Conjunction)*
    Conjunction := Unary ('&&' Unary)*
    Unary       := '!' Unary | '(' Disjunction ')' | Names Suffix
    Suffix      := ':' any '(' ')' | ':' (any | all) '(' Disjunction ')' | (':' count)? Test
    Test        := operator (':' i)? Constant | in (':' i)? '[' (Constant (',' Constant)*)? ']'
    Names       := name ('.' name)*

There is a type for every rule and a constructor for every alternative; the types know nothing of
the parser. What a derivation stands for in a text is its yield, a list of terminals; what it means
is its tree, in which chains of one connective are flattened.

## Contents
- `Terminal`, `Token.terminal`: what the grammar sees of a token.
- `Disjunction` … `Names`: derivations, with their `yield`, their `nesting` and their `tree`.
- `Node.flatten`: chains of a connective spliced into chains of the same one.
- `Disjunction.join_trees`: joining flattened terms, one level at a time, flattens the whole.
-/

namespace RecordQuery.Filter

/-! ## Terminals -/

/-- What the grammar sees of a token: what was written matters for names and for the literals that
have a text. -/
inductive Terminal where
  | sign (kind : TokenKind)
  | name (text : String)
  | number (text : String)
  | string (text : String)
deriving DecidableEq

def Token.terminal (token : Token) : Terminal :=
  match token.kind with
  | .identifier => .name token.text
  | .number => .number token.text
  | .string => .string token.text
  | kind => .sign kind

/-! ## Derivations -/

/-- A path: a name and those after it. -/
structure Names where
  first : String
  further : List String

/-- A literal that is no list. -/
inductive Constant where
  | number (text : String)
  | string (value : String)
  | boolean (value : Bool)
  | null

/-- A comparison without its left side. -/
inductive Test where
  | scalar (op : Operator) (single : op ≠ .oneOf) (ignoreCase : Bool) (right : Constant)
  | list (ignoreCase : Bool) (items : List Constant)

mutual

inductive Disjunction where
  | one (first : Conjunction)
  | more (first : Conjunction) (rest : Disjunction)

inductive Conjunction where
  | one (first : Unary)
  | more (first : Unary) (rest : Conjunction)

inductive Unary where
  | not (inner : Unary)
  | group (inner : Disjunction)
  | property (names : Names) (suffix : Suffix)

/-- What follows a path. -/
inductive Suffix where
  /-- The quantifier `any` without a body. -/
  | nonempty
  | quantified (quantifier : Quantifier) (body : Disjunction)
  | test (counted : Bool) (test : Test)

end

/-! ## Yields -/

/-- Terminals with a separator before each of them. -/
def separated (separator : TokenKind) (terminals : List Terminal) : List Terminal :=
  terminals.flatMap fun terminal => [.sign separator, terminal]

def Names.yield (names : Names) : List Terminal :=
  .name names.first :: separated .dot (names.further.map .name)

def Constant.terminal : Constant → Terminal
  | number text => .number text
  | string value => .string value
  | boolean value => .sign (.boolean value)
  | null => .sign .null

/-- Constants with commas between them. -/
def itemsYield : List Constant → List Terminal
  | [] => []
  | first :: rest => first.terminal :: separated .comma (rest.map Constant.terminal)

/-- A modifier after a colon, if it is there. -/
def modifierYield (name : String) (present : Bool) : List Terminal :=
  if present then [.sign .colon, .name name] else []

def Test.yield : Test → List Terminal
  | scalar op _ ignoreCase right =>
    .sign (.operator op) :: (modifierYield "i" ignoreCase ++ [right.terminal])
  | list ignoreCase items =>
    .sign (.operator .oneOf) :: (modifierYield "i" ignoreCase ++
      .sign .leftBracket :: (itemsYield items ++ [.sign .rightBracket]))

mutual

def Disjunction.yield : Disjunction → List Terminal
  | .one first => first.yield
  | .more first rest => first.yield ++ .sign .or :: rest.yield

def Conjunction.yield : Conjunction → List Terminal
  | .one first => first.yield
  | .more first rest => first.yield ++ .sign .and :: rest.yield

def Unary.yield : Unary → List Terminal
  | .not inner => .sign .not :: inner.yield
  | .group inner => .sign .leftParen :: (inner.yield ++ [.sign .rightParen])
  | .property names suffix => names.yield ++ suffix.yield

def Suffix.yield : Suffix → List Terminal
  | .nonempty =>
    [.sign .colon, .sign (.quantifier .any), .sign .leftParen, .sign .rightParen]
  | .quantified quantifier body =>
    .sign .colon :: .sign (.quantifier quantifier) :: .sign .leftParen ::
      (body.yield ++ [.sign .rightParen])
  | .test counted test => modifierYield "count" counted ++ test.yield

end

/-! ## Nesting -/

mutual

/-- How many operands of the derivation lie in each other. -/
def Disjunction.nesting : Disjunction → Nat
  | .one first => first.nesting
  | .more first rest => max first.nesting rest.nesting

def Conjunction.nesting : Conjunction → Nat
  | .one first => first.nesting
  | .more first rest => max first.nesting rest.nesting

def Unary.nesting : Unary → Nat
  | .not inner => inner.nesting + 1
  | .group inner => inner.nesting + 1
  | .property _ suffix => suffix.nesting + 1

def Suffix.nesting : Suffix → Nat
  | .quantified _ body => body.nesting
  | .nonempty | .test _ _ => 0

end

theorem Unary.nesting_pos (operand : Unary) : 0 < operand.nesting := by
  cases operand <;> exact Nat.succ_pos _

/-! ## Trees -/

def Names.path (names : Names) : Path := names.first :: names.further

def Constant.literal : Constant → Literal
  | number text => .number text
  | string value => .string value
  | boolean value => .boolean value
  | null => .null

def Test.tree (left : Subject) : Test → Node
  | scalar op _ ignoreCase right => .comparison left op ignoreCase right.literal
  | list ignoreCase items =>
    .comparison left .oneOf ignoreCase (.list (items.map Constant.literal))

/-- Terms under a connective; a single term stands for itself. -/
def Node.chain (connective : Connective) : List Node → Node
  | [only] => only
  | terms => .logical connective terms

mutual

def Disjunction.trees : Disjunction → List Node
  | .one first => [.chain .and first.trees]
  | .more first rest => .chain .and first.trees :: rest.trees

def Conjunction.trees : Conjunction → List Node
  | .one first => [first.tree]
  | .more first rest => first.tree :: rest.trees

/-- The tree of a derivation, with a node for every chain that was written. -/
def Unary.tree : Unary → Node
  | .not inner => .not inner.tree
  | .group inner => .chain .or inner.trees
  | .property names suffix => suffix.tree names.path

def Suffix.tree (path : Path) : Suffix → Node
  | .nonempty => .quantified .any path none
  | .quantified quantifier body => .quantified quantifier path (some (.chain .or body.trees))
  | .test counted test => test.tree (if counted then .count path else .path path)

end

def Conjunction.tree (conjunction : Conjunction) : Node := .chain .and conjunction.trees

def Disjunction.tree (disjunction : Disjunction) : Node := .chain .or disjunction.trees

mutual

/-- The tree with the terms of every chain that stands in a chain of the same connective in the
place of that chain. -/
def Node.flatten : Node → Node
  | .logical connective terms => .logical connective (Node.flattenTerms connective terms)
  | .not inner => .not inner.flatten
  | .quantified quantifier source (some body) => .quantified quantifier source (some body.flatten)
  | .quantified quantifier source none => .quantified quantifier source none
  | .comparison left op ignoreCase right => .comparison left op ignoreCase right

/-- The flattened terms of a chain of the connective. -/
def Node.flattenTerms (connective : Connective) : List Node → List Node
  | [] => []
  | .logical inner terms :: rest =>
    if inner = connective then
      Node.flattenTerms connective terms ++ Node.flattenTerms connective rest
    else .logical inner (Node.flattenTerms inner terms) :: Node.flattenTerms connective rest
  | term :: rest => term.flatten :: Node.flattenTerms connective rest

end

/-! ## Flattening level by level -/

/-- The node is no chain of fewer than two terms. -/
def Node.Branches (node : Node) : Prop :=
  ∀ connective terms, node = .logical connective terms → 2 ≤ terms.length

theorem Test.flatten_tree (left : Subject) (test : Test) :
    (test.tree left).flatten = test.tree left := by
  cases test <;> rfl

/-- Flattening the terms of a chain flattens each of them and then splices. -/
theorem Node.flattenTerms_eq (connective : Connective) (terms : List Node) :
    flattenTerms connective terms = (terms.map flatten).flatMap (spliced connective) := by
  induction terms with
  | nil => rfl
  | cons term terms ih =>
      rw [List.map_cons, List.flatMap_cons, ← ih]
      cases term with
      | logical inner terms =>
          rw [flattenTerms, flatten, spliced]
          split
          · rename_i hinner
            rw [hinner]
          · rfl
      | quantified quantifier source body => cases body <;> rfl
      | _ => rfl

/-- A node that branches adds a term at least to any chain. -/
theorem Node.Branches.spliced_ne_nil {node : Node} (h : node.Branches) (connective : Connective) :
    node.spliced connective ≠ [] := by
  cases node with
  | logical inner terms =>
      have hlength := h inner terms rfl
      rw [spliced]
      split
      · rintro rfl
        simp at hlength
      · exact List.cons_ne_nil _ _
  | _ => exact List.cons_ne_nil _ _

theorem Node.join_singleton {node : Node} (h : node.Branches) (connective : Connective) :
    join connective [node] = node := by
  cases node with
  | logical inner terms =>
      have hlength := h inner terms rfl
      rw [join, List.flatMap_singleton, spliced]
      split
      · rename_i only heq
        split at heq
        · rw [heq] at hlength
          simp at hlength
        · exact (List.cons_eq_cons.mp heq).1.symm
      · rename_i hne
        split at hne
        · rename_i hinner
          rw [if_pos hinner, hinner]
        · exact absurd rfl (hne _)
  | _ => rfl

/-- **Joining flattened terms flattens their chain.** -/
theorem Node.join_flatten {connective : Connective} {terms : List Node} (hne : terms ≠ [])
    (h : ∀ term ∈ terms, term.flatten.Branches) :
    join connective (terms.map flatten) = (chain connective terms).flatten ∧
      (chain connective terms).flatten.Branches := by
  match terms, hne with
  | [term], _ =>
      have hterm := h term List.mem_cons_self
      exact ⟨join_singleton hterm connective, hterm⟩
  | first :: second :: rest, _ =>
      have hfirst := (h first List.mem_cons_self).spliced_ne_nil connective
      have hsecond := (h second (List.mem_cons_of_mem _ List.mem_cons_self)).spliced_ne_nil
        connective
      rw [← List.length_pos_iff] at hfirst hsecond
      have hlength : 2 ≤ (flattenTerms connective (first :: second :: rest)).length := by
        rw [flattenTerms_eq]
        simp only [List.map_cons, List.flatMap_cons, List.length_append]
        omega
      have hflatten : (chain connective (first :: second :: rest)).flatten =
          .logical connective (flattenTerms connective (first :: second :: rest)) := rfl
      rw [hflatten]
      constructor
      · rw [join, ← flattenTerms_eq]
        split
        · rename_i only heq
          rw [heq] at hlength
          simp at hlength
        · rfl
      · rintro _ _ ⟨⟩
        exact hlength

mutual

theorem Disjunction.trees_spec (d : Disjunction) :
    d.trees ≠ [] ∧ ∀ term ∈ d.trees, term.flatten.Branches := by
  cases d with
  | one first =>
      obtain ⟨hne, hterms⟩ := first.trees_spec
      refine ⟨List.cons_ne_nil _ _, fun term hterm => ?_⟩
      rw [List.mem_singleton.mp hterm]
      exact (Node.join_flatten hne hterms).2
  | more first rest =>
      obtain ⟨hne, hterms⟩ := first.trees_spec
      refine ⟨List.cons_ne_nil _ _, fun term hterm => ?_⟩
      rcases List.mem_cons.mp hterm with rfl | hterm
      · exact (Node.join_flatten hne hterms).2
      · exact rest.trees_spec.2 term hterm

theorem Conjunction.trees_spec (c : Conjunction) :
    c.trees ≠ [] ∧ ∀ term ∈ c.trees, term.flatten.Branches := by
  cases c with
  | one first =>
      refine ⟨List.cons_ne_nil _ _, fun term hterm => ?_⟩
      rw [List.mem_singleton.mp hterm]
      exact first.branches
  | more first rest =>
      refine ⟨List.cons_ne_nil _ _, fun term hterm => ?_⟩
      rcases List.mem_cons.mp hterm with rfl | hterm
      · exact first.branches
      · exact rest.trees_spec.2 term hterm

theorem Unary.branches (o : Unary) : o.tree.flatten.Branches := by
  cases o with
  | not inner => exact fun _ _ h => by cases h
  | group inner =>
      obtain ⟨hne, hterms⟩ := inner.trees_spec
      exact (Node.join_flatten hne hterms).2
  | property names suffix =>
      intro _ _ h
      cases suffix with
      | nonempty => cases h
      | quantified quantifier body => cases h
      | test counted test => cases test <;> cases h

end

/-- **Joining the flattened terms of a conjunction flattens it.** -/
theorem Conjunction.join_trees (c : Conjunction) :
    Node.join .and (c.trees.map Node.flatten) = c.tree.flatten :=
  (Node.join_flatten c.trees_spec.1 c.trees_spec.2).1

theorem Disjunction.join_trees (d : Disjunction) :
    Node.join .or (d.trees.map Node.flatten) = d.tree.flatten :=
  (Node.join_flatten d.trees_spec.1 d.trees_spec.2).1

end RecordQuery.Filter
