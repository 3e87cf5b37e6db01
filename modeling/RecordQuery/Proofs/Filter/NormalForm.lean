import RecordQuery.Proofs.Filter.Grammar
import RecordQuery.Proofs.Filter.Lexeme

/-!
# `Proofs.Filter.NormalForm` — the trees that the parser returns

A tree is in normal form if its chains have two terms at least and none that is a chain of the same
connective, if operators and literals suit each other and if its names and numbers are ones that the
scanner reads. Joining terms in normal form gives a tree in normal form, although `join` looks one
level deep only: the terms of a chain that it splices are no chains of that connective themselves.

A derivation adds at most three nodes for each operand that lies in another: one for the operand,
one for the conjunction and one for the disjunction around it.

## Contents
- `Node.IsNormal`: trees in normal form.
- `Node.height`: how many nodes lie in each other.
- `Node.Fits`: both properties, with the height counted against the nesting of a derivation.
- `Node.Fits.join`: what joining keeps of them.
- `Disjunction.fits`: **the tree of a derivation fits its nesting.**
-/

namespace RecordQuery.Filter

/-! ## Normal form -/

/-- A name or more, none of them a keyword. -/
def IsNames (path : Path) : Prop := path ≠ [] ∧ ∀ name ∈ path, IsIdentifier name

/-- The literal is no list; a number in it has the text of one. -/
def Literal.IsScalar : Literal → Prop
  | .number text => IsNumeral text.toList
  | .list _ => False
  | .string _ | .boolean _ | .null => True

/-- The operator `in` has a list of scalars after it, every other operator a scalar. -/
def Literal.Suits (op : Operator) : Literal → Prop
  | .list items => op = .oneOf ∧ ∀ item ∈ items, item.IsScalar
  | literal => op ≠ .oneOf ∧ literal.IsScalar

/-- The connective of a chain. -/
def Node.connective? : Node → Option Connective
  | .logical connective _ => some connective
  | _ => none

/-- The tree is in normal form. -/
inductive Node.IsNormal : Node → Prop where
  | logical {connective : Connective} {terms : List Node} (several : 2 ≤ terms.length)
      (flat : ∀ term ∈ terms, term.connective? ≠ some connective)
      (normal : ∀ term ∈ terms, IsNormal term) : IsNormal (.logical connective terms)
  | not {inner : Node} (normal : IsNormal inner) : IsNormal (.not inner)
  | comparison {left : Subject} {op : Operator} {ignoreCase : Bool} {right : Literal}
      (names : IsNames left.names) (suits : right.Suits op) :
      IsNormal (.comparison left op ignoreCase right)
  /-- Only `any` does without a body. -/
  | nonempty {source : Path} (names : IsNames source) : IsNormal (.quantified .any source none)
  | quantified {quantifier : Quantifier} {source : Path} {body : Node} (names : IsNames source)
      (normal : IsNormal body) : IsNormal (.quantified quantifier source (some body))

mutual

/-- How many nodes lie in each other. -/
def Node.height : Node → Nat
  | .logical _ terms => Node.heights terms + 1
  | .not inner => inner.height + 1
  | .quantified _ _ (some body) => body.height + 1
  | .quantified _ _ none => 1
  | .comparison _ _ _ _ => 1

def Node.heights : List Node → Nat
  | [] => 0
  | term :: terms => max term.height (Node.heights terms)

end

/-! ## Joining -/

section Join

variable {node : Node} {terms : List Node} {connective : Connective} {n room bound : Nat}

theorem Node.heights_le : heights terms ≤ n ↔ ∀ term ∈ terms, term.height ≤ n := by
  induction terms with
  | nil => simp [heights]
  | cons term terms ih => rw [heights, Nat.max_le, ih, List.forall_mem_cons]

theorem Node.spliced_of_ne (h : node.connective? ≠ some connective) :
    node.spliced connective = [node] := by
  cases node with
  | logical inner terms =>
      rw [spliced, if_neg]
      intro heq
      exact h (congrArg some heq)
  | _ => rfl

theorem Node.IsNormal.branches (h : node.IsNormal) : node.Branches := by
  rintro connective terms rfl
  cases h with
  | logical several flat normal => exact several

/-- The tree is in normal form, and no higher than the bound with some room left. -/
structure Node.Fits (room bound : Nat) (node : Node) : Prop where
  normal : node.IsNormal
  height_le : node.height + room ≤ bound

theorem Node.Fits.mono {bound' : Nat} (h : node.Fits room bound) (hle : bound ≤ bound') :
    node.Fits room bound' :=
  ⟨h.normal, Nat.le_trans h.height_le hle⟩

/-- What a term adds to a chain is in normal form, no higher than the term and no such chain. -/
theorem Node.Fits.of_mem_spliced {term : Node} (h : node.Fits room bound)
    (hterm : term ∈ node.spliced connective) :
    term.Fits room bound ∧ term.connective? ≠ some connective := by
  by_cases hne : node.connective? = some connective
  · cases node with
    | logical inner terms =>
        cases hne
        rw [spliced, if_pos rfl] at hterm
        cases h.normal with
        | logical several flat normal =>
            have hheight := heights_le.mp (Nat.le_refl _) term hterm
            have hle := h.height_le
            rw [height] at hle
            exact ⟨⟨normal term hterm, by omega⟩, flat term hterm⟩
    | _ => cases hne
  · rw [spliced_of_ne hne] at hterm
    cases List.mem_singleton.mp hterm
    exact ⟨h, hne⟩

/-- **Joining terms in normal form gives a tree in normal form**, which may take one node more. -/
theorem Node.Fits.join (hne : terms ≠ []) (h : ∀ term ∈ terms, term.Fits (room + 1) bound) :
    (Node.join connective terms).Fits room bound := by
  -- What is spliced in is flat already, so one level of splicing is enough.
  have hflat : ∀ term ∈ terms.flatMap (spliced connective),
      term.Fits (room + 1) bound ∧ term.connective? ≠ some connective := by
    intro term hterm
    obtain ⟨node, hnode, hterm⟩ := List.mem_flatMap.mp hterm
    exact (h node hnode).of_mem_spliced hterm
  have hpos : terms.flatMap (spliced connective) ≠ [] := by
    obtain ⟨node, hnode⟩ := List.exists_mem_of_ne_nil terms hne
    intro hnil
    exact (h node hnode).normal.branches.spliced_ne_nil connective
      (List.flatMap_eq_nil_iff.mp hnil node hnode)
  rw [Node.join]
  split
  · rename_i only honly
    obtain ⟨⟨hnormal, hheight⟩, -⟩ := hflat only (by rw [honly]; exact List.mem_singleton_self only)
    exact ⟨hnormal, by omega⟩
  · rename_i hmany
    refine ⟨.logical ?_ (fun term hterm => (hflat term hterm).2)
      (fun term hterm => (hflat term hterm).1.normal), ?_⟩
    · -- neither no term nor a single one
      obtain ⟨first, rest, hlist⟩ := List.exists_cons_of_ne_nil hpos
      rw [hlist] at hmany ⊢
      cases rest with
      | nil => exact absurd rfl (hmany first)
      | cons second rest => exact Nat.le_add_left 2 rest.length
    · -- the bound is above the room, since there is a term
      obtain ⟨term, hterm⟩ := List.exists_mem_of_ne_nil _ hpos
      have hbound := (hflat term hterm).1.height_le
      have hheights : heights (terms.flatMap (spliced connective)) ≤ bound - (room + 1) := by
        rw [heights_le]
        intro term hterm
        have hle := (hflat term hterm).1.height_le
        omega
      rw [height]
      omega

end Join

/-! ## The trees of derivations -/

/-- All of them are readable. -/
def AllReadable (terminals : List Terminal) : Prop := ∀ terminal ∈ terminals, terminal.IsReadable

@[simp]
theorem allReadable_nil : AllReadable [] := nofun

@[simp]
theorem allReadable_cons {terminal : Terminal} {terminals : List Terminal} :
    AllReadable (terminal :: terminals) ↔ terminal.IsReadable ∧ AllReadable terminals :=
  List.forall_mem_cons

@[simp]
theorem allReadable_append {terminals others : List Terminal} :
    AllReadable (terminals ++ others) ↔ AllReadable terminals ∧ AllReadable others :=
  List.forall_mem_append

theorem Names.isNames {names : Names} (h : AllReadable names.yield) : IsNames names.path := by
  refine ⟨List.cons_ne_nil _ _, ?_⟩
  intro name hname
  rcases List.mem_cons.mp hname with rfl | hname
  · exact h _ List.mem_cons_self
  · refine h (.name name) (List.mem_cons_of_mem _ ?_)
    refine List.mem_flatMap.mpr ⟨.name name, List.mem_map_of_mem hname, ?_⟩
    exact List.mem_cons_of_mem _ List.mem_cons_self

theorem Constant.isScalar {constant : Constant} (h : constant.terminal.IsReadable) :
    constant.literal.IsScalar := by
  cases constant with
  | number text => exact h
  | _ => trivial

theorem mem_itemsYield {item : Constant} {items : List Constant} (h : item ∈ items) :
    item.terminal ∈ itemsYield items := by
  cases items with
  | nil => cases h
  | cons first rest =>
      rcases List.mem_cons.mp h with rfl | h
      · exact List.mem_cons_self
      · refine List.mem_cons_of_mem _ (List.mem_flatMap.mpr ⟨item.terminal, ?_, ?_⟩)
        · exact List.mem_map_of_mem h
        · exact List.mem_cons_of_mem _ List.mem_cons_self

theorem Test.fits {test : Test} {left : Subject} (hleft : IsNames left.names)
    (h : AllReadable test.yield) : (test.tree left).Fits 2 3 := by
  cases test with
  | scalar op single ignoreCase right =>
      have hright : right.literal.IsScalar := by
        refine right.isScalar (h _ ?_)
        simp [Test.yield]
      refine ⟨.comparison hleft ?_, Nat.le_refl _⟩
      cases right <;> exact ⟨single, hright⟩
  | list ignoreCase items =>
      refine ⟨.comparison hleft ⟨rfl, ?_⟩, Nat.le_refl _⟩
      intro literal hliteral
      obtain ⟨item, hitem, rfl⟩ := List.mem_map.mp hliteral
      refine item.isScalar (h _ ?_)
      simp [Test.yield, mem_itemsYield hitem]

theorem Conjunction.fits_of_trees (c : Conjunction) {bound : Nat}
    (h : ∀ term ∈ c.trees, term.flatten.Fits 2 bound) : c.tree.flatten.Fits 1 bound := by
  rw [← c.join_trees]
  refine Node.Fits.join ?_ (List.forall_mem_map.mpr h)
  rw [ne_eq, List.map_eq_nil_iff]
  exact c.trees_spec.1

theorem Disjunction.fits_of_trees (d : Disjunction) {bound : Nat}
    (h : ∀ term ∈ d.trees, term.flatten.Fits 1 bound) : d.tree.flatten.Fits 0 bound := by
  rw [← d.join_trees]
  refine Node.Fits.join ?_ (List.forall_mem_map.mpr h)
  rw [ne_eq, List.map_eq_nil_iff]
  exact d.trees_spec.1

/-- Terms that fit, behind another one that does. -/
theorem Node.forall_fits_cons {layer a b : Nat} {first : Node} {rest : List Node}
    (hfirst : first.flatten.Fits layer (3 * a))
    (hrest : ∀ term ∈ rest, term.flatten.Fits layer (3 * b)) :
    ∀ term ∈ first :: rest, term.flatten.Fits layer (3 * max a b) :=
  List.forall_mem_cons.mpr
    ⟨hfirst.mono (by omega), fun term hterm => (hrest term hterm).mono (by omega)⟩

-- By the rules of the grammar. The room left shrinks from a rule to the one it stands in, until an
-- operand of a greater nesting makes room again.
mutual

theorem Disjunction.trees_fit (d : Disjunction) (h : AllReadable d.yield) :
    ∀ term ∈ d.trees, term.flatten.Fits 1 (3 * d.nesting) := by
  cases d with
  | one first => exact List.forall_mem_singleton.mpr (first.fits_of_trees (first.trees_fit h))
  | more first rest =>
      obtain ⟨hfirst, hrest⟩ := allReadable_append.mp h
      exact Node.forall_fits_cons (first.fits_of_trees (first.trees_fit hfirst))
        (rest.trees_fit (allReadable_cons.mp hrest).2)

theorem Conjunction.trees_fit (c : Conjunction) (h : AllReadable c.yield) :
    ∀ term ∈ c.trees, term.flatten.Fits 2 (3 * c.nesting) := by
  cases c with
  | one first => exact List.forall_mem_singleton.mpr (first.fits h)
  | more first rest =>
      obtain ⟨hfirst, hrest⟩ := allReadable_append.mp h
      exact Node.forall_fits_cons (first.fits hfirst)
        (rest.trees_fit (allReadable_cons.mp hrest).2)

theorem Unary.fits (o : Unary) (h : AllReadable o.yield) :
    o.tree.flatten.Fits 2 (3 * o.nesting) := by
  cases o with
  | not inner =>
      obtain ⟨hnormal, hheight⟩ := inner.fits (allReadable_cons.mp h).2
      refine ⟨.not hnormal, ?_⟩
      rw [Unary.nesting, Unary.tree, Node.flatten, Node.height]
      omega
  | group inner =>
      have hinner := (allReadable_append.mp (allReadable_cons.mp h).2).1
      obtain ⟨hnormal, hheight⟩ := inner.fits_of_trees (inner.trees_fit hinner)
      refine ⟨hnormal, ?_⟩
      rw [Unary.nesting]
      show inner.tree.flatten.height + 2 ≤ _
      omega
  | property names suffix =>
      obtain ⟨hnames, hsuffix⟩ := allReadable_append.mp h
      exact suffix.fits names.path (Names.isNames hnames) hsuffix

theorem Suffix.fits (suffix : Suffix) (path : Path) (hpath : IsNames path)
    (h : AllReadable suffix.yield) :
    (suffix.tree path).flatten.Fits 2 (3 * (suffix.nesting + 1)) := by
  cases suffix with
  | nonempty => exact ⟨.nonempty hpath, Nat.le_refl 3⟩
  | quantified quantifier body =>
      have hbody : AllReadable body.yield := by
        intro terminal hterminal
        refine h terminal ?_
        simp [Suffix.yield, hterminal]
      obtain ⟨hnormal, hheight⟩ := body.fits_of_trees (body.trees_fit hbody)
      refine ⟨.quantified hpath hnormal, ?_⟩
      show body.tree.flatten.height + 1 + 2 ≤ 3 * (body.nesting + 1)
      omega
  | test counted test =>
      rw [Suffix.tree, test.flatten_tree]
      refine Test.fits ?_ (allReadable_append.mp h).2
      cases counted <;> exact hpath

end

/-- **The tree of a derivation is in normal form and fits its nesting**, if its terminals are
readable. -/
theorem Disjunction.fits (d : Disjunction) (h : AllReadable d.yield) :
    d.tree.flatten.IsNormal ∧ d.tree.flatten.height ≤ 3 * d.nesting := by
  obtain ⟨hnormal, hheight⟩ := d.fits_of_trees (d.trees_fit h)
  exact ⟨hnormal, hheight⟩

/-- What a text derives is readable. -/
theorem Disjunction.Derives.allReadable {d : Disjunction} {text : String} (h : d.Derives text) :
    AllReadable d.yield := by
  obtain ⟨tokens, last, hlex, -, hyield⟩ := h
  rw [hyield]
  refine List.forall_mem_map.mpr ?_
  intro token htoken
  obtain ⟨htoken, hblank⟩ := List.mem_filter.mp htoken
  have hread := lex_isReadable text token
  rw [hlex] at hread
  exact hread htoken (of_decide_eq_true hblank)

end RecordQuery.Filter
