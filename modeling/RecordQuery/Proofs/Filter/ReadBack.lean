import RecordQuery.Proofs.Filter.Rendering

/-!
# `Proofs.Filter.ReadBack` — the parser undoes the writing of filters

The words of a tree in normal form are the yield of a derivation whose tree, flattened, is that very
tree: parentheses become groups, and since no term of a chain is a chain of the same connective,
flattening changes nothing. The words are readable too, so every text of the tree has that
derivation, and the parser gives the tree back if the derivation is not nested too deeply.

## Contents
- `Node.IsNormal.allReadable`: the words of a tree in normal form are readable.
- `Unary.Writes`, `Disjunction.Writes`: a derivation has the words, the tree and the nesting.
- `WritesTerms`: the same for the terms of a chain, operand by operand.
- `Node.IsNormal.exists_writes`: **a tree in normal form has a derivation that writes it.**
- `parse_image_and_rendering`: **what is parsed is in normal form, and what is written is read
  back.**
-/

namespace RecordQuery.Filter

/-! ## Readable words -/

section Readable

variable {path : Path} {kind : TokenKind} {right : Literal} {op : Operator} {node : Node}
  {lists : List (List Terminal)}

theorem allReadable_between (hkind : kind.spelling ≠ "") (h : ∀ words ∈ lists, AllReadable words) :
    AllReadable (between kind lists) := by
  induction lists with
  | nil => exact allReadable_nil
  | cons first rest ih =>
      obtain ⟨hfirst, hrest⟩ := List.forall_mem_cons.mp h
      cases rest with
      | nil => rwa [between_singleton]
      | cons next rest =>
          rw [between_cons_cons]
          simp [hfirst, hkind, ih hrest]

theorem IsNames.allReadable (h : IsNames path) : AllReadable (pathWords path) := by
  obtain ⟨-, hnames⟩ := h
  cases path with
  | nil => exact allReadable_nil
  | cons first further =>
      obtain ⟨hfirst, hfurther⟩ := List.forall_mem_cons.mp hnames
      refine allReadable_cons.mpr ⟨hfirst, ?_⟩
      clear hnames hfirst
      induction further with
      | nil => exact allReadable_nil
      | cons name names ih =>
          obtain ⟨hname, hnames⟩ := List.forall_mem_cons.mp hfurther
          rw [List.map_cons, separated_cons]
          simp [hname, ih hnames, TokenKind.spelling]

/-- The words that are modifiers of paths and operators are names as well. -/
theorem allReadable_modifierYield {name : String} (h : name = "count" ∨ name = "i")
    (present : Bool) : AllReadable (modifierYield name present) := by
  have hname : IsIdentifier name := by
    rcases h with rfl | rfl
    · exact ⟨⟨'c', ['o', 'u', 'n', 't'], rfl, rfl, rfl⟩, by decide⟩
    · exact ⟨⟨'i', [], rfl, rfl, rfl⟩, by decide⟩
  cases present with
  | false => exact allReadable_nil
  | true => simp [modifierYield, hname, TokenKind.spelling]

theorem Literal.IsScalar.allReadable (h : right.IsScalar) : AllReadable right.words := by
  cases right with
  | number text => exact allReadable_cons.mpr ⟨h, allReadable_nil⟩
  | string value => exact allReadable_cons.mpr ⟨trivial, allReadable_nil⟩
  | boolean value => cases value <;> simp [Literal.words, TokenKind.spelling]
  | null => simp [Literal.words, TokenKind.spelling]
  | list items => cases h

theorem Literal.itemWords_eq_map (items : List Literal) :
    itemWords items = items.map Literal.words := by
  induction items with
  | nil => rfl
  | cons item items ih => rw [itemWords, ih, List.map_cons]

theorem Literal.suits_iff : right.Suits op ↔ op ≠ .oneOf ∧ right.IsScalar ∨
    op = .oneOf ∧ ∃ items, right = .list items ∧ ∀ item ∈ items, item.IsScalar := by
  cases right <;> simp [Suits, IsScalar]

theorem Literal.Suits.allReadable (h : right.Suits op) : AllReadable right.words := by
  rcases suits_iff.mp h with ⟨-, hscalar⟩ | ⟨-, items, rfl, hitems⟩
  · exact hscalar.allReadable
  · have hall : ∀ words ∈ Literal.itemWords items, AllReadable words := by
      rw [itemWords_eq_map]
      intro words hwords
      obtain ⟨item, hitem, rfl⟩ := List.mem_map.mp hwords
      exact (hitems item hitem).allReadable
    have hlist : AllReadable (between .comma (Literal.itemWords items)) :=
      allReadable_between (by decide) hall
    simp [Literal.words, hlist, TokenKind.spelling]

theorem Node.allReadable_enclosed {words : List Terminal} (h : AllReadable words) :
    AllReadable (node.enclosed words) := by
  unfold enclosed
  split
  · simp [h, TokenKind.spelling]
  · exact h

theorem Node.termWords_eq_map (terms : List Node) :
    termWords terms = terms.map fun term => term.enclosed term.words := by
  induction terms with
  | nil => rfl
  | cons term terms ih => rw [termWords, ih, List.map_cons]

/-- **The words of a tree in normal form are readable.** -/
theorem Node.IsNormal.allReadable (h : node.IsNormal) : AllReadable node.words := by
  induction h with
  | @logical connective terms several flat normal ih =>
      rw [words, termWords_eq_map]
      refine allReadable_between (by cases connective <;> decide) ?_
      intro words hwords
      obtain ⟨term, hterm, rfl⟩ := List.mem_map.mp hwords
      exact allReadable_enclosed (ih term hterm)
  | @not inner normal ih =>
      have hinner : AllReadable (inner.enclosed inner.words) := allReadable_enclosed ih
      simp [words, hinner, TokenKind.spelling]
  | @comparison left op ignoreCase right names suits =>
      have hleft : AllReadable left.words := by
        cases left with
        | path path => exact names.allReadable
        | count path =>
            exact allReadable_append.mpr
              ⟨names.allReadable, allReadable_modifierYield (Or.inl rfl) true⟩
      have hflag := allReadable_modifierYield (Or.inr rfl) ignoreCase
      have hop : (TokenKind.operator op).spelling ≠ "" := by cases op <;> decide
      simp [words, hleft, hflag, hop, suits.allReadable]
  | nonempty names => simp [words, names.allReadable, TokenKind.spelling, Quantifier.text]
  | @quantified quantifier source body names normal ih =>
      have hquantifier : quantifier.text ≠ "" := by cases quantifier <;> decide
      simp [words, names.allReadable, ih, hquantifier, TokenKind.spelling]

end Readable

/-! ## Derivations that write a tree -/

/-- As an operand, the derivation has the words, the tree and the nesting of the node. -/
structure Unary.Writes (operand : Unary) (node : Node) : Prop where
  yield_eq : operand.yield = node.enclosed node.words
  tree_eq : operand.tree.flatten = node
  nesting_eq : operand.nesting = node.nesting + node.groups

/-- As a whole, the derivation has the words, the tree and the nesting of the node. -/
structure Disjunction.Writes (disjunction : Disjunction) (node : Node) : Prop where
  yield_eq : disjunction.yield = node.words
  tree_eq : disjunction.tree.flatten = node
  nesting_eq : disjunction.nesting = node.nesting

section Writes

variable {node : Node} {terms : List Node} {connective : Connective} {right : Literal}
  {op : Operator}

/-- What is no chain is written the same way on its own. -/
theorem Unary.Writes.alone {operand : Unary} (h : operand.Writes node)
    (hnode : node.connective? = none) : (Disjunction.one (.one operand)).Writes node := by
  obtain ⟨hyield, htree, hnesting⟩ := h
  rw [Node.enclosed, hnode] at hyield
  rw [Node.groups, hnode] at hnesting
  exact ⟨hyield, htree, hnesting⟩

/-- A chain gets parentheses as an operand. -/
theorem Disjunction.Writes.group {disjunction : Disjunction} (h : disjunction.Writes node)
    (hnode : node.connective? = some connective) : (Unary.group disjunction).Writes node := by
  obtain ⟨hyield, htree, hnesting⟩ := h
  refine ⟨?_, htree, ?_⟩
  · rw [Node.enclosed, hnode, Unary.yield, hyield]
    rfl
  · rw [Node.groups, hnode, Unary.nesting, hnesting]
    rfl

theorem exists_names {path : Path} (h : path ≠ []) :
    ∃ names : Names, names.path = path ∧ names.yield = pathWords path := by
  cases path with
  | nil => exact absurd rfl h
  | cons first further => exact ⟨⟨first, further⟩, rfl, rfl⟩

theorem Literal.IsScalar.exists_constant (h : right.IsScalar) :
    ∃ constant : Constant, constant.literal = right ∧ right.words = [constant.terminal] := by
  cases right with
  | number text => exact ⟨.number text, rfl, rfl⟩
  | string value => exact ⟨.string value, rfl, rfl⟩
  | boolean value => exact ⟨.boolean value, rfl, rfl⟩
  | null => exact ⟨.null, rfl, rfl⟩
  | list items => cases h

theorem exists_constants {items : List Literal} (h : ∀ item ∈ items, item.IsScalar) :
    ∃ constants : List Constant, constants.map Constant.literal = items ∧
      between .comma (Literal.itemWords items) = itemsYield constants := by
  induction items with
  | nil => exact ⟨[], rfl, rfl⟩
  | cons item items ih =>
      obtain ⟨hitem, hitems⟩ := List.forall_mem_cons.mp h
      obtain ⟨constant, rfl, hwords⟩ := hitem.exists_constant
      obtain ⟨constants, rfl, hyield⟩ := ih hitems
      refine ⟨constant :: constants, rfl, ?_⟩
      cases constants with
      | nil => exact (between_singleton _ _).trans hwords
      | cons next constants =>
          rw [itemsYield_cons constant (List.cons_ne_nil _ _), ← hyield, Literal.itemWords, hwords]
          exact between_cons_cons _ _ _ _

/-- A literal that suits an operator makes a test with it. -/
theorem Literal.Suits.exists_test (h : right.Suits op) (left : Subject) (ignoreCase : Bool) :
    ∃ test : Test, test.tree left = .comparison left op ignoreCase right ∧
      test.yield = .sign (.operator op) :: (modifierYield "i" ignoreCase ++ right.words) := by
  rcases suits_iff.mp h with ⟨hop, hscalar⟩ | ⟨rfl, items, rfl, hitems⟩
  · obtain ⟨constant, rfl, hwords⟩ := hscalar.exists_constant
    exact ⟨.scalar op hop ignoreCase constant, rfl, by rw [hwords, Test.yield]⟩
  · obtain ⟨constants, rfl, hyield⟩ := exists_constants hitems
    exact ⟨.list ignoreCase constants, rfl, by rw [Literal.words, hyield, Test.yield]⟩

/-! ### Chains -/

/-- Joining changes nothing where there are several terms and no chains to splice. -/
theorem Node.join_of_flat (several : 2 ≤ terms.length)
    (flat : ∀ term ∈ terms, term.connective? ≠ some connective) :
    join connective terms = .logical connective terms := by
  have hspliced : terms.flatMap (spliced connective) = terms := by
    clear several
    induction terms with
    | nil => rfl
    | cons term terms ih =>
        obtain ⟨hterm, hterms⟩ := List.forall_mem_cons.mp flat
        rw [List.flatMap_cons, spliced_of_ne hterm, ih hterms, List.singleton_append]
  rw [join, hspliced]
  split
  · simp at several
  · rfl

/-- The yield, the trees and the nesting of a chain that writes the terms. -/
structure WritesTerms (connective : Connective) (terms : List Node) (yield : List Terminal)
    (trees : List Node) (nesting : Nat) : Prop where
  yield_eq : yield = between connective.kind (Node.termWords terms)
  trees_eq : trees.map Node.flatten = terms
  nesting_eq : nesting = Node.termNesting terms

/-- One operand writes one term. -/
theorem Unary.Writes.one {operand : Unary} (h : operand.Writes node) (connective : Connective) :
    WritesTerms connective [node] operand.yield [operand.tree] operand.nesting := by
  obtain ⟨hyield, htree, hnesting⟩ := h
  refine ⟨?_, ?_, ?_⟩
  · rw [hyield, Node.termWords, Node.termWords, between_singleton]
  · rw [List.map_singleton, htree]
  · rw [hnesting, Node.termNesting, Node.termNesting, Nat.max_zero]

/-- An operand before a chain writes one term more. -/
theorem WritesTerms.cons {operand : Unary} {yield : List Terminal} {trees : List Node}
    {nesting : Nat} (h : WritesTerms connective terms yield trees nesting) (hne : terms ≠ [])
    (hoperand : operand.Writes node) :
    WritesTerms connective (node :: terms) (operand.yield ++ .sign connective.kind :: yield)
      (operand.tree :: trees) (max operand.nesting nesting) := by
  obtain ⟨rfl, htrees, rfl⟩ := h
  obtain ⟨hyield, htree, hnesting⟩ := hoperand
  refine ⟨?_, ?_, ?_⟩
  · obtain ⟨next, rest, rfl⟩ := List.exists_cons_of_ne_nil hne
    rw [hyield]
    exact (between_cons_cons _ _ _ _).symm
  · rw [List.map_cons, htree, htrees]
  · rw [hnesting, Node.termNesting]

/-- Operands that write the terms make a chain that writes them all. `one` and `more` put chains
together, of one operand and of an operand before a chain. -/
theorem exists_chain {Chain : Type} (Writes : List Node → Chain → Prop) (one : Unary → Chain)
    (more : Unary → Chain → Chain)
    (hone : ∀ {operand node}, operand.Writes node → Writes [node] (one operand))
    (hmore : ∀ {operand node chain terms}, terms ≠ [] → operand.Writes node →
      Writes terms chain → Writes (node :: terms) (more operand chain))
    (hne : terms ≠ []) (h : ∀ term ∈ terms, ∃ operand : Unary, operand.Writes term) :
    ∃ chain, Writes terms chain := by
  induction terms with
  | nil => exact absurd rfl hne
  | cons term terms ih =>
      obtain ⟨⟨operand, hoperand⟩, hterms⟩ := List.forall_mem_cons.mp h
      by_cases hlast : terms = []
      · subst hlast
        exact ⟨one operand, hone hoperand⟩
      · obtain ⟨chain, hchain⟩ := ih hlast hterms
        exact ⟨more operand chain, hmore hlast hoperand hchain⟩

theorem exists_writes_logical (several : 2 ≤ terms.length)
    (flat : ∀ term ∈ terms, term.connective? ≠ some connective)
    (h : ∀ term ∈ terms, ∃ operand : Unary, operand.Writes term) :
    ∃ disjunction : Disjunction, disjunction.Writes (.logical connective terms) := by
  have hne : terms ≠ [] := by
    rintro rfl
    simp at several
  have hjoin := Node.join_of_flat several flat
  cases connective with
  | and =>
      -- the conjunction is the only term of its disjunction
      obtain ⟨conjunction, hyield, htrees, hnesting⟩ :=
        exists_chain (fun terms (c : Conjunction) => WritesTerms .and terms c.yield c.trees c.nesting)
          .one .more (fun hoperand => hoperand.one .and)
          (fun hne hoperand hc => hc.cons hne hoperand) hne h
      refine ⟨.one conjunction, hyield, ?_, hnesting⟩
      show conjunction.tree.flatten = _
      rw [← conjunction.join_trees, htrees, hjoin]
  | or =>
      obtain ⟨disjunction, hyield, htrees, hnesting⟩ :=
        exists_chain (fun terms (d : Disjunction) => WritesTerms .or terms d.yield d.trees d.nesting)
          (fun operand => .one (.one operand)) (fun operand d => .more (.one operand) d)
          (fun hoperand => hoperand.one .or) (fun hne hoperand hd => hd.cons hne hoperand) hne h
      refine ⟨disjunction, hyield, ?_, hnesting⟩
      rw [← disjunction.join_trees, htrees, hjoin]

/-- **A tree in normal form has a derivation that writes it**, as an operand and on its own. -/
theorem Node.IsNormal.exists_writes (h : node.IsNormal) :
    (∃ operand : Unary, operand.Writes node) ∧
      ∃ disjunction : Disjunction, disjunction.Writes node := by
  -- A chain is derived on its own first, and in parentheses as an operand; whatever is no chain is
  -- derived as an operand first.
  induction h with
  | logical several flat normal ih =>
      obtain ⟨disjunction, hwrites⟩ :=
        exists_writes_logical several flat fun term hterm => (ih term hterm).1
      exact ⟨⟨_, hwrites.group rfl⟩, disjunction, hwrites⟩
  | @not inner normal ih =>
      obtain ⟨⟨operand, hyield, htree, hnesting⟩, -⟩ := ih
      have hwrites : (Unary.not operand).Writes (.not inner) :=
        ⟨congrArg _ hyield, congrArg Node.not htree, congrArg (· + 1) hnesting⟩
      exact ⟨⟨_, hwrites⟩, _, hwrites.alone rfl⟩
  | @comparison left op ignoreCase right names suits =>
      obtain ⟨test, htree, hyield⟩ := suits.exists_test left ignoreCase
      obtain ⟨path, hpath, hwords⟩ := exists_names names.1
      -- the modifier `count` belongs to the path in the tree, to the suffix in the derivation
      have hwrites : ∃ counted, (Unary.property path (.test counted test)).Writes
          (.comparison left op ignoreCase right) := by
        cases left with
        | path names =>
            cases hpath
            refine ⟨false, ?_, (test.flatten_tree _).trans htree, rfl⟩
            rw [Unary.yield, Suffix.yield, hwords, hyield]
            rfl
        | count names =>
            cases hpath
            refine ⟨true, ?_, (test.flatten_tree _).trans htree, rfl⟩
            rw [Unary.yield, Suffix.yield, hwords, hyield, ← List.append_assoc]
            rfl
      obtain ⟨counted, hwrites⟩ := hwrites
      exact ⟨⟨_, hwrites⟩, _, hwrites.alone rfl⟩
  | @nonempty source names =>
      obtain ⟨path, rfl, hwords⟩ := exists_names names.1
      have hwrites : (Unary.property path .nonempty).Writes (.quantified .any path.path none) :=
        ⟨congrArg (· ++ _) hwords, rfl, rfl⟩
      exact ⟨⟨_, hwrites⟩, _, hwrites.alone rfl⟩
  | @quantified quantifier source body names normal ih =>
      obtain ⟨-, disjunction, hyield, htree, hnesting⟩ := ih
      obtain ⟨path, rfl, hwords⟩ := exists_names names.1
      have hwrites : (Unary.property path (.quantified quantifier disjunction)).Writes
          (.quantified quantifier path.path (some body)) := by
        refine ⟨?_, ?_, congrArg (· + 1) hnesting⟩
        · rw [Unary.yield, Suffix.yield, hwords, hyield]
          rfl
        · exact congrArg (fun body => Node.quantified quantifier path.path (some body)) htree
      exact ⟨⟨_, hwrites⟩, _, hwrites.alone rfl⟩

end Writes

/-! ## Parsing and writing -/

/-- What was parsed is in normal form, and not too high. -/
theorem isNormal_of_parse {text : String} {ast : Node} (h : parse text = .ok ast) :
    ast.IsNormal ∧ ast.height ≤ 3 * maxNesting := by
  obtain ⟨derivation, hderives, hnesting, rfl⟩ := exists_derivation_of_parse h
  obtain ⟨hnormal, hheight⟩ := derivation.fits hderives.allReadable
  exact ⟨hnormal, Nat.le_trans hheight (Nat.mul_le_mul_left 3 hnesting)⟩

/-- A text that writes a tree in normal form has one derivation, and its nesting decides. -/
theorem Node.Renders.parse_iff {ast : Node} {text : String} (h : ast.Renders text)
    (hnormal : ast.IsNormal) : parse text = .ok ast ↔ ast.nesting ≤ maxNesting := by
  -- The derivation that writes the tree is the only one of the text.
  obtain ⟨-, derivation, hyield, htree, hnesting⟩ := hnormal.exists_writes
  have hderives := h.derives hnormal.allReadable hyield
  rw [← hnesting]
  constructor
  · intro hparse
    obtain ⟨other, hother, hle, -⟩ := exists_derivation_of_parse hparse
    rwa [hderives.unique hother]
  · intro hle
    rw [hderives.parse_eq hle, htree]

/-- **What is parsed is in normal form, and what is written is read back.** Every tree that the
parser returns is in normal form and at most 3 * 64 nodes high. Every tree in normal form is written
by a text, and the parser gives the tree back from any text that writes it, just if no more than 64
operands lie in each other there. -/
theorem parse_image_and_rendering :
    (∀ (text : String) (ast : Node), parse text = .ok ast →
      ast.IsNormal ∧ ast.height ≤ 3 * 64) ∧
    ∀ ast : Node, ast.IsNormal → ast.Renders ast.render ∧
      ∀ text : String, ast.Renders text → (parse text = .ok ast ↔ ast.nesting ≤ 64) := by
  constructor
  · intro text ast hparse
    exact isNormal_of_parse hparse
  · intro ast hnormal
    refine ⟨ast.renders_render, ?_⟩
    intro text hrenders
    exact hrenders.parse_iff hnormal

/-- A filter with a group, both modifiers, a quote inside a string and a negation. -/
def sampleFilter : Node :=
  .logical .and [
    .logical .or [
      .comparison (.path ["name", "first"]) .eq true (.string "O\"Hara's"),
      .comparison (.count ["tags"]) .gt false (.number "-1.5e3")],
    .not (.quantified .any ["tags"] none)]

theorem parse_image_and_rendering_sample :
    sampleFilter.render =
      "( name . first == : i \"O\\\"Hara's\" || tags : count > -1.5e3 ) && ! tags : any ( )" ∧
    parse sampleFilter.render = .ok sampleFilter ∧ sampleFilter.IsNormal ∧
    sampleFilter.height ≤ 3 * 64 := by
  have hname : IsNames ["name", "first"] := by
    refine ⟨nofun, List.forall_mem_cons.mpr ⟨?_, List.forall_mem_singleton.mpr ?_⟩⟩
    · exact ⟨⟨'n', ['a', 'm', 'e'], rfl, rfl, rfl⟩, by decide⟩
    · exact ⟨⟨'f', ['i', 'r', 's', 't'], rfl, rfl, rfl⟩, by decide⟩
  have htags : IsNames ["tags"] := by
    refine ⟨nofun, List.forall_mem_singleton.mpr ?_⟩
    exact ⟨⟨'t', ['a', 'g', 's'], rfl, rfl, rfl⟩, by decide⟩
  have hnumber : IsNumeral "-1.5e3".toList := isNumeral_iff_readFront.mpr rfl
  have hnormal : sampleFilter.IsNormal := by
    refine .logical (by decide) (by decide) (List.forall_mem_cons.mpr ⟨?_, ?_⟩)
    · refine .logical (by decide) (by decide) (List.forall_mem_cons.mpr ⟨?_, ?_⟩)
      · exact .comparison hname ⟨nofun, trivial⟩
      · exact List.forall_mem_singleton.mpr (.comparison htags ⟨nofun, hnumber⟩)
    · exact List.forall_mem_singleton.mpr (.not (.nonempty htags))
  have hparse : parse sampleFilter.render = .ok sampleFilter :=
    ((parse_image_and_rendering.2 _ hnormal).2 _
      (parse_image_and_rendering.2 _ hnormal).1).mpr (by decide)
  exact ⟨by decide, hparse, parse_image_and_rendering.1 _ _ hparse⟩

end RecordQuery.Filter
