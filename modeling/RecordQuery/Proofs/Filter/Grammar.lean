import RecordQuery.Proofs.Filter.Rules
import RecordQuery.Proofs.Filter.Scanner

/-!
# `Proofs.Filter.Grammar` — the parser reads the grammar

## Contents
- `chain_induction`, `reads_chain_one`, `reads_chain_more`: how a chain is read.
- `SoundUnary`, `unary_sound`: an operand that was read has a derivation, nested no deeper than
  allowed.
- `Unary.read`, `Disjunction.read`: a derivation nested no deeper than allowed is read.
- `exists_derivation_of_parse`, `Disjunction.Derives.parse_eq`: the same for whole texts.
- `parse_eq_ok_iff`: **the parser accepts the yields of derivations and gives their trees.**
-/

namespace RecordQuery.Filter

/-! ## Chains -/

/-- The sign between the terms of a connective. -/
def Connective.kind : Connective → TokenKind
  | and => .and
  | or => .or

theorem Connective.terminals_cons {connective : Connective} {token : Token}
    (h : token.kind = connective.kind) (rest : List Token) :
    terminals (token :: rest) = .sign connective.kind :: terminals rest := by
  obtain ⟨kind, text, position⟩ := token
  cases connective <;> cases h <;> rfl

/-- A chain of one connective, joined. -/
def joined (connective : Connective) (item : Rule Node) : Rule Node := fun tokens => do
  let (terms, rest) ← chain connective.kind item tokens
  .ok (.join connective terms, rest)

theorem connected_eq (item : Rule Node) : connected item = joined .or (joined .and item) := rfl

section Chain

variable {item : Rule Node} {separator : TokenKind} {tokens rest : List Token} {node : Node}
  {nodes : List Node}

/-- A chain is an item, or an item, a separator and a chain. -/
theorem chain_induction {P : List Token → List Node → List Token → Prop}
    (one : ∀ tokens node rest, item tokens = .ok (node, rest) → P tokens [node] rest)
    (more : ∀ tokens node token middle nodes rest, item tokens = .ok (node, token :: middle) →
      token.kind = separator → P middle nodes rest → P tokens (node :: nodes) rest)
    (h : chain separator item tokens = .ok (nodes, rest)) : P tokens nodes rest := by
  fun_induction chain separator item tokens generalizing nodes rest with
  | case1 => cases h
  | case2 tokens node hitem =>
      cases h
      exact one _ _ _ hitem
  | case3 => cases h
  | case4 tokens node token middle hitem hstep nodes rest hrest ih =>
      cases h
      exact more _ _ _ _ _ _ hitem hstep.1 (ih hrest)
  | case5 tokens node token middle hitem hstep =>
      cases h
      exact one _ _ _ hitem

theorem reads_chain_one (connective : Connective) {R : List Terminal}
    (hitem : Reads item tokens node R) (hR : StopsAt connective.kind R) :
    Reads (chain connective.kind item) tokens [node] R := by
  obtain ⟨rest, hitem, rfl⟩ := hitem
  refine ⟨rest, ?_, rfl⟩
  rw [chain, hitem]
  cases rest with
  | nil => rfl
  | cons token tail =>
      refine if_neg fun hstep => hR ?_
      rw [Connective.terminals_cons hstep.1]
      rfl

/-- After an item that takes its own terminals and a separator, the chain goes on. -/
theorem reads_chain_more (connective : Connective) {T M R : List Terminal}
    (h : terminals tokens = T ++ .sign connective.kind :: M)
    (hitem : Reads item tokens node (.sign connective.kind :: M))
    (hmore : ∀ {middle}, terminals middle = M →
      Reads (chain connective.kind item) middle nodes R) :
    Reads (chain connective.kind item) tokens (node :: nodes) R := by
  obtain ⟨tail, hitem, htail⟩ := hitem
  obtain ⟨text, position, middle, rfl, hmiddle⟩ := tokens_of_sign htail
  obtain ⟨rest, hmore, hrest⟩ := hmore hmiddle
  -- The tokens get fewer, by the separator at least.
  have hlt : middle.length < tokens.length := by
    have hlength := congrArg List.length h
    rw [← hmiddle] at hlength
    simp only [terminals, List.length_map, List.length_append, List.length_cons] at hlength
    omega
  refine ⟨rest, ?_, hrest⟩
  rw [chain, hitem]
  dsimp only
  rw [if_pos ⟨rfl, hlt⟩, hmore]

end Chain

section Rules

variable {stop : Except LexError Token} {tokens rest : List Token} {node : Node} {depth : Nat}

/-! ## The end of a quantifier -/

/-- The closing parenthesis of a quantifier, with no path going on after it. -/
def closed (stop : Except LexError Token) (quantifier : Quantifier) (path : Path)
    (inner : Option Node) : Rule Node := fun tokens => do
  let rest ← expect stop .rightParen .quantifierNotClosed tokens
  match rest with
  | ⟨.colon, _, _⟩ :: _ => reject stop .secondModifier rest
  | ⟨.dot, _, _⟩ :: _ => reject stop .quantifierNotFinal rest
  | _ => .ok (.quantified quantifier path inner, rest)

variable {quantifier : Quantifier} {path : Path} {inner : Option Node} {R : List Terminal}

theorem closed_sound (h : closed stop quantifier path inner tokens = .ok (node, rest)) :
    terminals tokens = .sign .rightParen :: terminals rest ∧
      node = .quantified quantifier path inner := by
  obtain ⟨rest₁, hclose, h⟩ := ok_of_bind h
  obtain ⟨text, position, htokens⟩ := expect_ok hclose
  rw [htokens]
  split at h
  · exact absurd h reject_ne_ok
  · exact absurd h reject_ne_ok
  · cases h
    exact ⟨rfl, rfl⟩

theorem closed_complete (stop : Except LexError Token) (quantifier : Quantifier) (path : Path)
    (inner : Option Node) (hcolon : StopsAt .colon R) (hdot : StopsAt .dot R)
    (h : terminals tokens = .sign .rightParen :: R) :
    Reads (closed stop quantifier path inner) tokens (.quantified quantifier path inner) R := by
  obtain ⟨text, position, rest, rfl, hrest⟩ := tokens_of_sign h
  refine ⟨rest, ?_, hrest⟩
  rw [closed, expect, if_pos rfl]
  dsimp only [bind, Except.bind]
  split
  · exact absurd hrest (hcolon.terminals_ne rfl)
  · exact absurd hrest (hdot.terminals_ne rfl)
  · rfl

/-! ## What was read has a derivation -/

/-- Whatever the rule reads is an operand, nested no deeper than the depth. -/
def SoundUnary (depth : Nat) (rule : Rule Node) : Prop :=
  ∀ tokens node rest, rule tokens = .ok (node, rest) → ∃ operand : Unary,
    operand.nesting ≤ depth ∧ terminals tokens = operand.yield ++ terminals rest ∧
      node = operand.tree.flatten

def SoundConjunction (depth : Nat) (rule : Rule Node) : Prop :=
  ∀ tokens node rest, rule tokens = .ok (node, rest) → ∃ conjunction : Conjunction,
    conjunction.nesting ≤ depth ∧ terminals tokens = conjunction.yield ++ terminals rest ∧
      node = conjunction.tree.flatten

def SoundDisjunction (depth : Nat) (rule : Rule Node) : Prop :=
  ∀ tokens node rest, rule tokens = .ok (node, rest) → ∃ disjunction : Disjunction,
    disjunction.nesting ≤ depth ∧ terminals tokens = disjunction.yield ++ terminals rest ∧
      node = disjunction.tree.flatten

/-- What is read as a chain of items is a phrase made of them, if a phrase is an item, or an item, a
separator and a phrase. -/
theorem joined_sound {ι κ : Type} {item : Rule Node} {connective : Connective}
    {nesting : ι → Nat} {word : ι → List Terminal} {tree : ι → Node}
    {nestings : κ → Nat} {words : κ → List Terminal} {trees : κ → List Node} {whole : κ → Node}
    (hitem : ∀ tokens node rest, item tokens = .ok (node, rest) → ∃ first, nesting first ≤ depth ∧
      terminals tokens = word first ++ terminals rest ∧ node = (tree first).flatten)
    (hjoin : ∀ phrase, .join connective ((trees phrase).map Node.flatten) = (whole phrase).flatten)
    (one : ∀ first, nesting first ≤ depth →
      ∃ phrase, nestings phrase ≤ depth ∧ words phrase = word first ∧ trees phrase = [tree first])
    (more : ∀ first others, nesting first ≤ depth → nestings others ≤ depth →
      ∃ phrase, nestings phrase ≤ depth ∧
        words phrase = word first ++ .sign connective.kind :: words others ∧
        trees phrase = tree first :: trees others)
    (tokens : List Token) (node : Node) (rest : List Token)
    (h : joined connective item tokens = .ok (node, rest)) :
    ∃ phrase, nestings phrase ≤ depth ∧ terminals tokens = words phrase ++ terminals rest ∧
      node = (whole phrase).flatten := by
  obtain ⟨⟨nodes, rest⟩, hchain, h⟩ := ok_of_bind h
  cases h
  obtain ⟨phrase, hphrase, hwords, rfl⟩ := chain_induction
    (P := fun tokens nodes rest => ∃ phrase, nestings phrase ≤ depth ∧
      terminals tokens = words phrase ++ terminals rest ∧ nodes = (trees phrase).map Node.flatten)
    (fun tokens node rest h => by
      obtain ⟨first, hnesting, hword, rfl⟩ := hitem _ _ _ h
      obtain ⟨phrase, hphrase, hwords, htrees⟩ := one first hnesting
      exact ⟨phrase, hphrase, by rw [hword, hwords], by rw [htrees]; rfl⟩)
    (fun tokens node token middle nodes rest h hkind hmore => by
      obtain ⟨first, hnesting, hword, rfl⟩ := hitem _ _ _ h
      obtain ⟨others, hothers, hwords, rfl⟩ := hmore
      obtain ⟨phrase, hphrase, hyield, htrees⟩ := more first others hnesting hothers
      refine ⟨phrase, hphrase, ?_, by rw [htrees]; rfl⟩
      rw [hword, Connective.terminals_cons hkind, hwords, hyield, List.append_assoc]
      rfl)
    hchain
  exact ⟨phrase, hphrase, hwords, hjoin phrase⟩

theorem SoundUnary.joined {item : Rule Node} (hitem : SoundUnary depth item) :
    SoundConjunction depth (joined .and item) :=
  joined_sound hitem Conjunction.join_trees (fun first h => ⟨.one first, h, rfl, rfl⟩)
    fun first others h hs => ⟨.more first others, Nat.max_le.mpr ⟨h, hs⟩, rfl, rfl⟩

theorem SoundConjunction.joined {item : Rule Node} (hitem : SoundConjunction depth item) :
    SoundDisjunction depth (joined .or item) :=
  joined_sound hitem Disjunction.join_trees (fun first h => ⟨.one first, h, rfl, rfl⟩)
    fun first others h hs => ⟨.more first others, Nat.max_le.mpr ⟨h, hs⟩, rfl, rfl⟩

theorem SoundUnary.connected {item : Rule Node} (hitem : SoundUnary depth item) :
    SoundDisjunction depth (connected item) := hitem.joined.joined

theorem quantified_sound {body : Rule Node} (hbody : SoundDisjunction depth body)
    (h : quantified stop body quantifier path tokens = .ok (node, rest)) :
    ∃ suffix : Suffix, suffix.nesting ≤ depth ∧
      .sign .colon :: .sign (.quantifier quantifier) :: terminals tokens =
        suffix.yield ++ terminals rest ∧
      node = (suffix.tree path).flatten := by
  obtain ⟨tokens₁, hopen, h⟩ := ok_of_bind h
  obtain ⟨text, position, htokens⟩ := expect_ok hopen
  rw [htokens]
  dsimp only at h
  split at h
  · split at h
    · obtain ⟨_, hreject, -⟩ := ok_of_bind h
      exact absurd hreject reject_ne_ok
    · rename_i text' position' tail hany
      have h : closed stop quantifier path none (⟨.rightParen, text', position'⟩ :: tail) =
        .ok (node, rest) := h
      obtain ⟨hclose, rfl⟩ := closed_sound h
      cases quantifier with
      | all => exact absurd rfl hany
      | any =>
          exact ⟨.nonempty, Nat.zero_le _, congrArg (fun R => .sign .colon ::
            .sign (.quantifier .any) :: .sign .leftParen :: R) hclose, rfl⟩
  · obtain ⟨⟨inner, rest₁⟩, hinner, h⟩ := ok_of_bind h
    have h : closed stop quantifier path (some inner) rest₁ = .ok (node, rest) := h
    obtain ⟨hclose, rfl⟩ := closed_sound h
    obtain ⟨disjunction, hnesting, hyield, rfl⟩ := hbody _ _ _ hinner
    refine ⟨.quantified quantifier disjunction, hnesting, ?_, rfl⟩
    rw [hclose] at hyield
    simp only [Suffix.yield, List.cons_append, List.append_assoc, List.nil_append]
    rw [← hyield]
    rfl

theorem afterPath_sound {body : Rule Node} (hbody : SoundDisjunction depth body)
    (h : afterPath stop body path tokens = .ok (node, rest)) :
    ∃ suffix : Suffix, suffix.nesting ≤ depth ∧ terminals tokens = suffix.yield ++ terminals rest ∧
      node = (suffix.tree path).flatten := by
  unfold afterPath at h
  split at h
  · exact quantified_sound hbody h
  · split at h
    · rename_i hcount
      split at h
      · exact absurd h reject_ne_ok
      · exact absurd h reject_ne_ok
      · obtain ⟨test, rfl, htest⟩ := comparison_sound h
        refine ⟨.test true test, Nat.zero_le _, ?_, (test.flatten_tree _).symm⟩
        rw [hcount]
        exact congrArg (Terminal.sign .colon :: .name "count" :: ·) htest
    · exact absurd h reject_ne_ok
  · exact absurd h reject_ne_ok
  · obtain ⟨test, rfl, htest⟩ := comparison_sound h
    exact ⟨.test false test, Nat.zero_le _, htest, (test.flatten_tree _).symm⟩

/-- **An operand that was read has a derivation.** -/
theorem unary_sound (stop : Except LexError Token) (depth : Nat) :
    SoundUnary depth (unary stop depth) := by
  intro tokens node rest h
  induction depth generalizing tokens rest node with
  | zero => exact absurd h reject_ne_ok
  | succ depth ih =>
      have ih : SoundUnary depth (unary stop depth) := ih
      unfold unary at h
      split at h
      · obtain ⟨⟨inner, rest⟩, hinner, h⟩ := ok_of_bind h
        cases h
        obtain ⟨operand, hnesting, hyield, rfl⟩ := ih _ _ _ hinner
        exact ⟨.not operand, Nat.succ_le_succ hnesting,
          congrArg (Terminal.sign .not :: ·) hyield, rfl⟩
      · obtain ⟨⟨inner, rest₁⟩, hinner, h⟩ := ok_of_bind h
        obtain ⟨rest₂, hclose, h⟩ := ok_of_bind h
        cases h
        obtain ⟨text, position, rfl⟩ := expect_ok hclose
        obtain ⟨disjunction, hnesting, hyield, rfl⟩ := ih.connected _ _ _ hinner
        refine ⟨.group disjunction, Nat.succ_le_succ hnesting, ?_, rfl⟩
        rw [Unary.yield, List.cons_append, List.append_assoc]
        exact congrArg (Terminal.sign .leftParen :: ·) hyield
      · rename_i name position tokens
        obtain ⟨⟨names, rest₁⟩, hnames, h⟩ := ok_of_bind h
        have hnames := furtherSegments_sound hnames
        obtain ⟨suffix, hnesting, hyield, rfl⟩ := afterPath_sound ih.connected h
        refine ⟨.property ⟨name, names⟩ suffix, Nat.succ_le_succ hnesting, ?_, rfl⟩
        rw [Unary.yield, List.append_assoc, ← hyield]
        exact congrArg (Terminal.name name :: ·) hnames
      · exact absurd h reject_ne_ok

/-! ## What has a derivation is read -/

/-- What may follow an operand. -/
structure EndsUnary (R : List Terminal) : Prop where
  colon : StopsAt .colon R
  dot : StopsAt .dot R

/-- What may follow a conjunction. -/
structure EndsConjunction (R : List Terminal) : Prop extends EndsUnary R where
  and : StopsAt .and R

/-- What may follow a disjunction. -/
structure EndsDisjunction (R : List Terminal) : Prop extends EndsConjunction R where
  or : StopsAt .or R

theorem endsUnary_and : EndsUnary (.sign .and :: R) := ⟨by simp, by simp⟩

theorem endsConjunction_or : EndsConjunction (.sign .or :: R) := ⟨⟨by simp, by simp⟩, by simp⟩

theorem endsDisjunction_rightParen : EndsDisjunction (.sign .rightParen :: R) :=
  ⟨⟨⟨by simp, by simp⟩, by simp⟩, by simp⟩

theorem endsDisjunction_nil : EndsDisjunction [] :=
  ⟨⟨⟨stopsAt_nil _, stopsAt_nil _⟩, stopsAt_nil _⟩, stopsAt_nil _⟩

/-- A quantifier is read where its body is. -/
theorem quantified_complete {body : Rule Node} {T : List Terminal} (hR : EndsUnary R)
    (hT : StopsAt .rightParen T)
    (hbody : ∀ {tokens}, terminals tokens = T → Reads body tokens node (.sign .rightParen :: R))
    (h : terminals tokens = .sign .leftParen :: T) :
    Reads (quantified stop body quantifier path) tokens
      (.quantified quantifier path (some node)) R := by
  obtain ⟨text, position, tail, rfl, htail⟩ := tokens_of_sign h
  obtain ⟨tail₁, hread, htail₁⟩ := hbody htail
  obtain ⟨rest, hclose, hrest⟩ := closed_complete stop quantifier path (some node) hR.colon
    hR.dot htail₁
  refine ⟨rest, ?_, hrest⟩
  rw [quantified, expect, if_pos rfl, ← hclose]
  dsimp only [bind, Except.bind]
  split
  · exact absurd htail (hT.terminals_ne rfl)
  · rw [hread]
    rfl

theorem quantified_nonempty_complete {body : Rule Node} (hR : EndsUnary R)
    (h : terminals tokens = .sign .leftParen :: .sign .rightParen :: R) :
    Reads (quantified stop body .any path) tokens (.quantified .any path none) R := by
  obtain ⟨text, position, tail, rfl, htail⟩ := tokens_of_sign h
  obtain ⟨rest, hclose, hrest⟩ := closed_complete stop .any path none hR.colon hR.dot htail
  obtain ⟨text', position', tail', rfl, -⟩ := tokens_of_sign htail
  refine ⟨rest, ?_, hrest⟩
  rw [← hclose]
  rfl

/-- What reads the terms of a conjunction reads the conjunction when it joins them. -/
theorem Conjunction.reads_joined {conjunction : Conjunction} {item : Rule Node}
    (h : Reads (chain .and item) tokens (conjunction.trees.map Node.flatten) R) :
    Reads (joined .and item) tokens conjunction.tree.flatten R := by
  obtain ⟨rest, hchain, hrest⟩ := h
  refine ⟨rest, ?_, hrest⟩
  rw [joined, ← conjunction.join_trees]
  exact congrArg (· >>= _) hchain

theorem Disjunction.reads_connected {disjunction : Disjunction} {item : Rule Node}
    (h : Reads (chain .or (joined .and item)) tokens (disjunction.trees.map Node.flatten) R) :
    Reads (connected item) tokens disjunction.tree.flatten R := by
  obtain ⟨rest, hchain, hrest⟩ := h
  refine ⟨rest, ?_, hrest⟩
  rw [connected_eq, joined, ← disjunction.join_trees]
  exact congrArg (· >>= _) hchain

end Rules

section Read

variable (stop : Except LexError Token)

mutual

theorem Disjunction.read (disjunction : Disjunction) {depth : Nat} {tokens : List Token}
    {R : List Terminal} (hnesting : disjunction.nesting ≤ depth) (hR : EndsDisjunction R)
    (h : terminals tokens = disjunction.yield ++ R) :
    Reads (chain .or (joined .and (unary stop depth))) tokens
      (disjunction.trees.map Node.flatten) R := by
  cases disjunction with
  | one first =>
      have hfirst := first.read hnesting hR.toEndsConjunction h
      exact reads_chain_one .or (Conjunction.reads_joined hfirst) hR.or
  | more first others =>
      rw [Disjunction.yield, List.append_assoc, List.cons_append] at h
      have hnesting := Nat.max_le.mp hnesting
      have hfirst := first.read hnesting.1 endsConjunction_or h
      exact reads_chain_more .or h (Conjunction.reads_joined hfirst)
        fun hmiddle => others.read hnesting.2 hR hmiddle

theorem Conjunction.read (conjunction : Conjunction) {depth : Nat} {tokens : List Token}
    {R : List Terminal} (hnesting : conjunction.nesting ≤ depth) (hR : EndsConjunction R)
    (h : terminals tokens = conjunction.yield ++ R) :
    Reads (chain .and (unary stop depth)) tokens (conjunction.trees.map Node.flatten) R := by
  cases conjunction with
  | one first => exact reads_chain_one .and (first.read hnesting hR.toEndsUnary h) hR.and
  | more first others =>
      rw [Conjunction.yield, List.append_assoc, List.cons_append] at h
      have hnesting := Nat.max_le.mp hnesting
      exact reads_chain_more .and h (first.read hnesting.1 endsUnary_and h)
        fun hmiddle => others.read hnesting.2 hR hmiddle

theorem Unary.read (operand : Unary) {depth : Nat} {tokens : List Token}
    {R : List Terminal} (hnesting : operand.nesting ≤ depth) (hR : EndsUnary R)
    (h : terminals tokens = operand.yield ++ R) :
    Reads (unary stop depth) tokens operand.tree.flatten R := by
  obtain ⟨depth, rfl⟩ := Nat.exists_eq_add_of_le' (Nat.le_trans operand.nesting_pos hnesting)
  cases operand with
  | not inner =>
      obtain ⟨text, position, tail, rfl, htail⟩ := tokens_of_sign h
      obtain ⟨rest, hinner, hrest⟩ := inner.read (Nat.le_of_succ_le_succ hnesting) hR htail
      exact ⟨rest, by rw [unary, hinner]; rfl, hrest⟩
  | group inner =>
      rw [Unary.yield, List.cons_append, List.append_assoc] at h
      obtain ⟨text, position, tail, rfl, htail⟩ := tokens_of_sign h
      have hinner := inner.read (Nat.le_of_succ_le_succ hnesting) endsDisjunction_rightParen htail
      obtain ⟨tail₁, hinner, htail₁⟩ := Disjunction.reads_connected hinner
      obtain ⟨text', position', rest, rfl, hrest⟩ := tokens_of_sign htail₁
      exact ⟨rest, by rw [unary, hinner]; rfl, hrest⟩
  | property names suffix =>
      rw [Unary.yield, List.append_assoc] at h
      obtain ⟨position, tail, rfl, htail⟩ := tokens_of_name h
      obtain ⟨tail₁, hnames, htail₁⟩ :=
        furtherSegments_complete stop (suffix.stopsAt_dot R) htail
      obtain ⟨rest, hsuffix, hrest⟩ := suffix.read names.path
        (Nat.le_of_succ_le_succ hnesting) hR htail₁
      exact ⟨rest, by rw [unary, hnames]; exact hsuffix, hrest⟩

theorem Suffix.read (suffix : Suffix) (path : Path) {depth : Nat} {tokens : List Token}
    {R : List Terminal} (hnesting : suffix.nesting ≤ depth) (hR : EndsUnary R)
    (h : terminals tokens = suffix.yield ++ R) :
    Reads (afterPath stop (connected (unary stop depth)) path) tokens
      (suffix.tree path).flatten R := by
  cases suffix with
  | nonempty =>
      obtain ⟨text, position, tail, rfl, htail⟩ := tokens_of_sign h
      obtain ⟨text', position', tail', rfl, htail'⟩ := tokens_of_sign htail
      exact quantified_nonempty_complete hR htail'
  | quantified quantifier body =>
      simp only [Suffix.yield, List.cons_append, List.append_assoc, List.nil_append] at h
      obtain ⟨text, position, tail, rfl, htail⟩ := tokens_of_sign h
      obtain ⟨text', position', tail', rfl, htail'⟩ := tokens_of_sign htail
      refine quantified_complete hR (body.stopsAt_rightParen _) (fun hbody => ?_) htail'
      exact Disjunction.reads_connected (body.read hnesting endsDisjunction_rightParen hbody)
  | test counted test =>
      rw [Suffix.tree, test.flatten_tree]
      -- An operator stands first, so no modifier is taken for one of the path.
      have hfront {tokens : List Token} (h : terminals tokens = test.yield ++ R) :
          ∃ op text position tail, tokens = ⟨.operator op, text, position⟩ :: tail := by
        obtain ⟨op, T, htest⟩ := test.yield_cons
        rw [htest] at h
        obtain ⟨text, position, tail, htokens, -⟩ := tokens_of_sign h
        exact ⟨op, text, position, tail, htokens⟩
      cases counted with
      | true =>
          obtain ⟨text, position, tail, rfl, htail⟩ := tokens_of_sign h
          obtain ⟨position', tail', rfl, htail'⟩ := tokens_of_name htail
          obtain ⟨rest, hread, hrest⟩ := comparison_complete stop (.count path) (R := R) htail'
          obtain ⟨op, text', position'', tail'', rfl⟩ := hfront htail'
          refine ⟨rest, ?_, hrest⟩
          rw [afterPath, if_pos rfl]
          · exact hread
          · simp
          · simp
      | false =>
          obtain ⟨rest, hread, hrest⟩ := comparison_complete stop (.path path) h
          obtain ⟨op, text, position, tail, rfl⟩ := hfront h
          exact ⟨rest, hread, hrest⟩

end

end Read

/-! ## The whole -/

theorem whole_eq_ok_iff {stop : Except LexError Token} {tokens : List Token} {node : Node} :
    whole stop tokens = .ok node ↔
      (∃ last, stop = .ok last) ∧ connected (unary stop maxNesting) tokens = .ok (node, []) := by
  constructor
  · intro h
    obtain ⟨⟨node, rest⟩, hread, h⟩ := ok_of_bind h
    dsimp only at h
    split at h
    · cases h
      exact ⟨⟨_, rfl⟩, hread⟩
    · exact absurd h reject_ne_ok
  · rintro ⟨⟨last, rfl⟩, hread⟩
    rw [whole, hread]
    rfl

/-- The text lexes up to its end, and the derivation yields its tokens without white space. -/
def Disjunction.Derives (derivation : Disjunction) (text : String) : Prop :=
  ∃ tokens last, lex text = (tokens, .ok last) ∧ last.kind = .endOfText ∧
    derivation.yield = terminals (tokens.filter fun token => token.kind ≠ .whitespace)

/-- A text has one derivation at most, however deeply its operands are nested. -/
theorem Disjunction.Derives.unique {text : String} {a b : Disjunction} (ha : a.Derives text)
    (hb : b.Derives text) : a = b := by
  obtain ⟨tokens, last, hlex, -, hyield⟩ := ha
  obtain ⟨tokens', last', hlex', -, hyield'⟩ := hb
  cases hlex.symm.trans hlex'
  have hends : StopsAt .and [] ∧ StopsAt .or [] := ⟨stopsAt_nil _, stopsAt_nil _⟩
  exact (a.yield_injective b hends hends (by rw [hyield, hyield'])).1

theorem parse_eq_whole (text : String) : parse text = whole (lex text).2
    ((lex text).1.filter fun token => token.kind ≠ .whitespace) := by
  rw [parse, tokens_eq_lex]

/-- What was parsed has a derivation. -/
theorem exists_derivation_of_parse {text : String} {ast : Node} (h : parse text = .ok ast) :
    ∃ derivation : Disjunction, derivation.Derives text ∧ derivation.nesting ≤ maxNesting ∧
      ast = derivation.tree.flatten := by
  rw [parse_eq_whole, whole_eq_ok_iff] at h
  obtain ⟨⟨last, hlast⟩, hread⟩ := h
  obtain ⟨derivation, hnesting, hyield, htree⟩ := (unary_sound _ _).connected _ _ _ hread
  refine ⟨derivation, ⟨_, last, Prod.ext rfl hlast, lex_stop hlast, ?_⟩, hnesting, htree⟩
  exact (List.append_nil _).symm.trans hyield.symm

/-- What has a derivation that is not nested too deeply is parsed. -/
theorem Disjunction.Derives.parse_eq {derivation : Disjunction} {text : String}
    (h : derivation.Derives text) (hnesting : derivation.nesting ≤ maxNesting) :
    parse text = .ok derivation.tree.flatten := by
  obtain ⟨tokens, last, hlex, -, hyield⟩ := h
  rw [parse_eq_whole, whole_eq_ok_iff, hlex]
  refine ⟨⟨last, rfl⟩, ?_⟩
  obtain ⟨rest, hread, hrest⟩ := Disjunction.reads_connected <|
    derivation.read (.ok last) hnesting endsDisjunction_nil
      (hyield.symm.trans (List.append_nil _).symm)
  rw [List.map_eq_nil_iff.mp hrest] at hread
  exact hread

/-- **The parser accepts exactly the grammar**: a text is read as a filter if and only if it has a
derivation in which no more than 64 operands lie in each other; there is no other derivation of the
text then, and the filter is its tree, flattened. -/
theorem parse_eq_ok_iff (text : String) (ast : Node) :
    parse text = .ok ast ↔ ∃ derivation : Disjunction, derivation.Derives text ∧
      (∀ other : Disjunction, other.Derives text → other = derivation) ∧
      derivation.nesting ≤ 64 ∧ ast = derivation.tree.flatten := by
  constructor
  · intro h
    obtain ⟨derivation, hderives, hnesting, htree⟩ := exists_derivation_of_parse h
    exact ⟨derivation, hderives, fun _ hother => hother.unique hderives, hnesting, htree⟩
  · rintro ⟨derivation, hderives, -, hnesting, rfl⟩
    exact hderives.parse_eq hnesting

end RecordQuery.Filter
