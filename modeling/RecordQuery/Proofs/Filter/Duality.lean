import RecordQuery.Proofs.Filter.CompiledForm
import RecordQuery.Proofs.Filter.Typing
import RecordQuery.Proofs.Predicate.Simplification

/-!
# `Proofs.Filter.Duality` — quantifiers as each other's opposites

Not all elements pass a test if and only if some element passes the opposite test. Compiled filters
keep this law on every record, also where the record contradicts its schema or the test of an
element fails: `any` has null tests for guards that must all hold, `all` has the opposite tests of
which one is enough, and both go through the guards and the elements in the same order and stop at
the same one.

## Contents
- `evaluate_chain_not`, `evaluate_quantified_not`: the law for terms and for elements, errors
  included.
- `evaluate_connect_of_fits`, `evaluate_guard`: chains that the builders leave as they are.
- `quantifierTest_dual`: the law for the tests that quantifiers stand for.
- `compile_quantified_iff`, `compile_nonempty_iff`, `compile_atLeastOne_iff`: what the filters are
  compiled to.
- `evaluate_nonempty_eq`: a collection has elements if their number is at least one.
- `quantifier_duality`: **both laws for filters.**
-/

namespace RecordQuery

open RecordQuery.Filter (Connective)

namespace Predicate

variable {record : Record} {terms : List Predicate}

/-! ## Opposites -/

/-- **A chain does not hold if and only if its opposite terms hold under the other connective**, and
an error ends both tests at the same term. -/
theorem evaluate_chain_not (connective : Connective) (terms : List Predicate) (record : Record) :
    ((chain connective terms).evaluate record).map (!·) =
      (chain connective.opposite (terms.map negate)).evaluate record := by
  rw [evaluate_chain, evaluate_chain, Connective.verdict_not, List.map_map, List.map_map]
  simp only [Function.comp_def, evaluate_negate]

/-- **Not all elements pass if and only if one of them passes the opposite test**, and the other way
around; an element that cannot be tested ends both. -/
theorem evaluate_quantified_not (connective : Connective) (path : Path) (inner : Predicate)
    (record : Record) :
    ((quantified connective path inner).evaluate record).map (!·) =
      (quantified connective.opposite path inner.negate).evaluate record := by
  rw [evaluate_quantified_eq, evaluate_quantified_eq]
  cases path.readList record with
  | error e => rfl
  | ok items =>
      show (testElements connective _ path items).map (!·) =
        testElements connective.opposite _ path items
      rw [testElements_eq, testElements_eq, Connective.verdict_not, List.map_map]
      congr 1
      refine List.map_congr_left fun item _ => ?_
      cases hitem : path.elementRecord item with
      | error e => simp only [Function.comp_apply, hitem, Except.bind, Except.map]
      | ok fields => simp only [Function.comp_apply, hitem, Except.bind, evaluate_negate]

theorem evaluate_all_not (path : Path) (inner : Predicate) (record : Record) :
    ((all path inner).evaluate record).map (!·) = (any path inner.negate).evaluate record :=
  evaluate_quantified_not .and path inner record

/-! ## Chains that nothing is left out of -/

/-- A connective of terms that fit under it is their plain chain. -/
theorem evaluate_connect_of_fits {connective : Connective}
    (h : ∀ term ∈ terms, term.FitsUnder connective) (record : Record) :
    (connect connective terms).evaluate record = (chain connective terms).evaluate record := by
  rcases evaluate_connect connective terms record with hsame | ⟨-, -, -, before, after, rfl, -⟩
  · exact hsame
  · exact (h _ (List.mem_append_right before List.mem_cons_self)).elim

/-- Tests of paths and a last term that fit under a connective. -/
theorem fits_map_append {connective : Connective} {test : Path → Predicate} {last : Predicate}
    (htest : ∀ path, (test path).FitsUnder connective) (hlast : last.FitsUnder connective)
    (paths : List Path) : ∀ term ∈ paths.map test ++ [last], term.FitsUnder connective := by
  refine List.forall_mem_append.mpr ⟨?_, List.forall_mem_singleton.mpr hlast⟩
  exact List.forall_mem_map.mpr fun path _ => htest path

end Predicate

namespace Filter

variable {catalog : Catalog} {options : CompileOptions} {schema : Schema} {record : Record}

/-- The guards and what they stand in front of are tested one after the other. -/
theorem evaluate_guard {p : Predicate} (h : p.FitsUnder .and) (paths : List Path)
    (record : Record) :
    (options.guard paths p).evaluate record =
      (Predicate.chain .and
        ((if options.nullGuards then paths.map .isNotNull else []) ++ [p])).evaluate record := by
  unfold CompileOptions.guard
  cases options.nullGuards with
  | false => exact (Predicate.evaluate_chain_singleton .and p record).symm
  | true =>
      cases paths with
      | nil => exact (Predicate.evaluate_chain_singleton .and p record).symm
      | cons path paths =>
          have hnull : ∀ path, (Predicate.isNotNull path).FitsUnder .and := fun _ => trivial
          exact Predicate.evaluate_connect_of_fits
            (Predicate.fits_map_append hnull h (path :: paths)) record

/-- Two predicates behind the same guards. -/
theorem evaluate_guard_congr {p q : Predicate} (hp : p.FitsUnder .and) (hq : q.FitsUnder .and)
    (paths : List Path) (h : p.evaluate record = q.evaluate record) :
    (options.guard paths p).evaluate record = (options.guard paths q).evaluate record := by
  rw [evaluate_guard hp, evaluate_guard hq, Predicate.evaluate_chain_append,
    Predicate.evaluate_chain_append, Predicate.evaluate_chain_singleton,
    Predicate.evaluate_chain_singleton, h]

/-! ## Quantifiers -/

/-- The guards of `all` are the opposites of those of `any`. -/
theorem evaluate_guarded_all (paths : List Path) (path : Path) (inner : Predicate)
    (record : Record) :
    ((Predicate.disjunction (paths.map .isNull ++ [.all path inner])).evaluate record).map (!·) =
      (Predicate.chain .and (paths.map .isNotNull ++ [.any path inner.negate])).evaluate record := by
  have hnull : ∀ path, (Predicate.isNull path).FitsUnder .or := fun _ => trivial
  have hall : (Predicate.all path inner).FitsUnder .or := trivial
  have hplain : (Predicate.disjunction (paths.map .isNull ++ [.all path inner])).evaluate record =
      (Predicate.chain .or (paths.map .isNull ++ [.all path inner])).evaluate record :=
    Predicate.evaluate_connect_of_fits (Predicate.fits_map_append hnull hall paths) record
  have hopposite : (paths.map Predicate.isNull ++ [Predicate.all path inner]).map .negate =
      paths.map .isNotNull ++ [(Predicate.all path inner).negate] := by
    rw [List.map_append, List.map_map]
    rfl
  rw [hplain, Predicate.evaluate_chain_not, hopposite, Connective.opposite_or,
    Predicate.evaluate_chain_append, Predicate.evaluate_chain_append,
    Predicate.evaluate_chain_singleton, Predicate.evaluate_chain_singleton,
    Predicate.evaluate_negate, Predicate.evaluate_all_not]

/-- **The tests of the two quantifiers are dual**, with guards and without. -/
theorem quantifierTest_dual {p : ResolvedPath} {inner all any : Predicate}
    (hall : quantifierTest options .all p (some inner) = .ok all)
    (hany : quantifierTest options .any p (some inner.negate) = .ok any) (record : Record) :
    all.negate.evaluate record = any.evaluate record := by
  cases hany
  have hfits : (Predicate.any p.path inner.negate).FitsUnder .and := trivial
  rw [Predicate.evaluate_negate, evaluate_guard hfits]
  simp only [quantifierTest] at hall
  cases hg : options.nullGuards with
  | true =>
      rw [hg] at hall
      cases hall
      exact evaluate_guarded_all (collectionGuards p) p.path inner record
  | false =>
      rw [hg] at hall
      cases hall
      rw [Predicate.evaluate_all_not]
      exact (Predicate.evaluate_chain_singleton .and _ record).symm

/-- A quantifier with a body is compiled to its test, whichever quantifier it is. -/
theorem compile_quantified_iff {quantifier : Quantifier} {source : Path} {body : Node}
    {p : Predicate} :
    compile catalog options schema (.quantified quantifier source (some body)) = .ok p ↔
      ∃ resolved place inner, catalog.property schema source = .ok resolved ∧
        resolved.last.type = .list (.record place) ∧
        compile catalog options (catalog.schema place) body = .ok inner ∧
        quantifierTest options quantifier resolved (some inner) = .ok p := by
  constructor
  · intro h
    obtain ⟨resolved, element, elements, inner, hsource, helements, hbody, htest⟩ :=
      compile_quantified h
    obtain ⟨place, rfl, rfl⟩ := elementSchema_ok helements
    obtain ⟨hproperty, htype⟩ := quantifiedSource_iff.mp hsource
    exact ⟨resolved, place, inner, hproperty, htype, hbody, htest⟩
  · rintro ⟨resolved, place, inner, hproperty, htype, hbody, htest⟩
    have hsource : quantifiedSource catalog schema quantifier source =
        .ok (resolved, .record place) := quantifiedSource_iff.mpr ⟨hproperty, htype⟩
    simp only [compile, hsource, elementSchema, FieldType.place?, hbody, bind, Except.bind]
    exact htest

/-! ## Collections that are not empty -/

theorem compile_nonempty_iff {source : Path} {p : Predicate} :
    compile catalog options schema (.quantified .any source none) = .ok p ↔
      ∃ resolved element, catalog.property schema source = .ok resolved ∧
        resolved.last.type = .list element ∧
        options.guard (collectionGuards resolved) (.nonempty resolved.path) = p := by
  constructor
  · intro h
    simp only [compile, bind, Except.bind] at h
    split at h
    · cases h
    · rename_i found hfound
      obtain ⟨resolved, element⟩ := found
      obtain ⟨hproperty, htype⟩ := quantifiedSource_iff.mp hfound
      cases h
      exact ⟨resolved, element, hproperty, htype, rfl⟩
  · rintro ⟨resolved, element, hproperty, htype, rfl⟩
    have hfound : quantifiedSource catalog schema .any source = .ok (resolved, element) :=
      quantifiedSource_iff.mpr ⟨hproperty, htype⟩
    simp only [compile, hfound, bind, Except.bind]
    rfl

/-- `source:count >= 1` -/
def atLeastOne (source : Path) : Node :=
  .comparison (.count source) .ge false (.number "1")

theorem compile_atLeastOne_iff {source : Path} {p : Predicate} :
    compile catalog options schema (atLeastOne source) = .ok p ↔
      ∃ resolved element, catalog.property schema source = .ok resolved ∧
        resolved.last.type = .list element ∧
        options.guard (collectionGuards resolved)
          (.compare (.count resolved.path) .ge (options.bound (.number (.uint 1))) false) = p := by
  simp only [atLeastOne, compile, compileComparison, Subject.target]
  cases catalog.property schema source with
  | error e => simp [bind, Except.bind]
  | ok resolved =>
      simp only [bind, Except.bind, Except.ok.injEq]
      cases htype : resolved.last.type with
      | list element =>
          constructor
          · intro h
            cases h
            exact ⟨resolved, element, rfl, htype, rfl⟩
          · rintro ⟨_, _, rfl, -, rfl⟩
            rfl
      | _ =>
          constructor
          · intro h
            cases h
          · rintro ⟨_, _, rfl, hlist, -⟩
            rw [htype] at hlist
            cases hlist

/-- **A collection has elements if their number is at least one**, and where it cannot be read there
is no number either. -/
theorem evaluate_nonempty_eq {source : Path} {field : Field} {element : FieldType}
    (at_end : catalog.fieldAt? schema source = some field) (list : field.type = .list element)
    (hr : record.Conforms catalog schema) (parameter : Bool) :
    (Predicate.nonempty source).evaluate record =
      (Predicate.compare (.count source) .ge ⟨.number (.uint 1), parameter⟩ false).evaluate
        record := by
  rcases Catalog.readList_or_blocked at_end list hr with ⟨items, -, hread, short, -⟩ |
      ⟨q, -, -, hread⟩
  · have hlength : Operator.ge.holdsOf (.scalar (.number (.uint (.ofNat items.length))))
        (.number (.uint 1)) false = !items.isEmpty := by
      rw [Bool.eq_iff_iff, Operator.holdsOf_iff (fun h => Scalar.noConfusion h),
        relates_length short]
      show (compare items.length 1 != .lt) = true ↔ _
      rw [bne_iff_ne, ne_eq, Nat.compare_eq_lt]
      cases items <;> simp
    simp only [Predicate.evaluate, Operand.read, hread, Except.map, hlength]
  · simp only [Predicate.evaluate, Operand.read, hread, Except.map]

/-! ## The laws -/

/-- `!source:all(body)` -/
def notAll (source : Path) (body : Node) : Node := .not (.quantified .all source (some body))

/-- `source:any(!body)` -/
def someNot (source : Path) (body : Node) : Node := .quantified .any source (some (.not body))

/-- If not all elements can be asked for, then neither can some opposite, and they are the same. -/
theorem exists_compile_someNot {source : Path} {body : Node} {p : Predicate}
    (h : compile catalog options schema (notAll source body) = .ok p) :
    ∃ q, compile catalog options schema (someNot source body) = .ok q ∧
      ∀ record, p.evaluate record = q.evaluate record := by
  obtain ⟨all, hall, rfl⟩ := compile_not h
  obtain ⟨resolved, place, inner, hproperty, htype, hbody, htest⟩ := compile_quantified_iff.mp hall
  have hnot : compile catalog options (catalog.schema place) (.not body) = .ok inner.negate := by
    rw [compile_not_eq, hbody]
    rfl
  refine ⟨_, compile_quantified_iff.mpr
    ⟨resolved, place, inner.negate, hproperty, htype, hnot, rfl⟩, ?_⟩
  intro record
  exact quantifierTest_dual htest rfl record

theorem exists_compile_notAll {source : Path} {body : Node} {q : Predicate}
    (h : compile catalog options schema (someNot source body) = .ok q) :
    ∃ p, compile catalog options schema (notAll source body) = .ok p := by
  obtain ⟨resolved, place, opposite, hproperty, htype, hnot, -⟩ := compile_quantified_iff.mp h
  obtain ⟨inner, hbody, -⟩ := compile_not hnot
  obtain ⟨all, htest⟩ := exists_quantifierTest options .all resolved inner
  have hall := compile_quantified_iff.mpr ⟨resolved, place, inner, hproperty, htype, hbody, htest⟩
  refine ⟨all.negate, ?_⟩
  rw [notAll, compile_not_eq, hall]
  rfl

theorem exists_compile_atLeastOne {source : Path} {p : Predicate}
    (h : compile catalog options schema (.quantified .any source none) = .ok p) :
    ∃ q, compile catalog options schema (atLeastOne source) = .ok q ∧
      ∀ record, record.Conforms catalog schema → p.evaluate record = q.evaluate record := by
  obtain ⟨resolved, element, hproperty, htype, rfl⟩ := compile_nonempty_iff.mp h
  obtain ⟨route, -⟩ := Catalog.property_route hproperty
  refine ⟨_, compile_atLeastOne_iff.mpr ⟨resolved, element, hproperty, htype, rfl⟩, ?_⟩
  intro record hr
  have hnonempty : (Predicate.nonempty resolved.path).FitsUnder .and := trivial
  have hcompare : (Predicate.compare (.count resolved.path) .ge
      (options.bound (.number (.uint 1))) false).FitsUnder .and := trivial
  exact evaluate_guard_congr hnonempty hcompare _
    (evaluate_nonempty_eq route.fieldAt? htype hr options.parameterizeValues)

/-- **Quantifiers are each other's opposites, and collections that have elements are those that have
one at least.** Of each pair of filters one compiles if and only if the other one does. Then the two
of the first pair give the same answer, or the same error, on every record, whether or not it
conforms to the schema; and the two of the second pair on every conforming record. -/
theorem quantifier_duality (catalog : Catalog) (options : CompileOptions) (schema : Schema)
    (source : Path) :
    (∀ body : Node,
      ((∃ p, compile catalog options schema (notAll source body) = .ok p) ↔
        ∃ q, compile catalog options schema (someNot source body) = .ok q) ∧
      ∀ p q, compile catalog options schema (notAll source body) = .ok p →
        compile catalog options schema (someNot source body) = .ok q →
        ∀ record, p.evaluate record = q.evaluate record) ∧
    ((∃ p, compile catalog options schema (.quantified .any source none) = .ok p) ↔
      ∃ q, compile catalog options schema (atLeastOne source) = .ok q) ∧
    ∀ p q, compile catalog options schema (.quantified .any source none) = .ok p →
      compile catalog options schema (atLeastOne source) = .ok q →
      ∀ record, record.Conforms catalog schema → p.evaluate record = q.evaluate record := by
  refine ⟨fun body => ⟨⟨?_, ?_⟩, ?_⟩, ⟨?_, ?_⟩, ?_⟩
  · rintro ⟨p, hp⟩
    obtain ⟨q, hq, -⟩ := exists_compile_someNot hp
    exact ⟨q, hq⟩
  · rintro ⟨q, hq⟩
    exact exists_compile_notAll hq
  · intro p q hp hq
    obtain ⟨q', hq', heq⟩ := exists_compile_someNot hp
    cases hq.symm.trans hq'
    exact heq
  · rintro ⟨p, hp⟩
    obtain ⟨q, hq, -⟩ := exists_compile_atLeastOne hp
    exact ⟨q, hq⟩
  · rintro ⟨q, hq⟩
    obtain ⟨resolved, element, hproperty, htype, -⟩ := compile_atLeastOne_iff.mp hq
    exact ⟨_, compile_nonempty_iff.mpr ⟨resolved, element, hproperty, htype, rfl⟩⟩
  · intro p q hp hq
    obtain ⟨q', hq', heq⟩ := exists_compile_atLeastOne hp
    cases hq.symm.trans hq'
    exact heq

/-- Someone whose only friend is a number, against the schema. -/
def numbered : Record :=
  [("friends", .list [.scalar (.number (.int 4))])]

theorem quantifier_duality_numbered :
    (∃ p q, compile people {} people.root (notAll ["friends"] homeless) = .ok p ∧
      compile people {} people.root (someNot ["friends"] homeless) = .ok q ∧
      p.evaluate numbered = q.evaluate numbered ∧
      q.evaluate numbered = .error (.shape "friends" "record element" "number")) ∧
    ∃ p q, compile people ⟨false, true⟩ people.root (.quantified .any ["friends"] none) = .ok p ∧
      compile people ⟨false, true⟩ people.root (atLeastOne ["friends"]) = .ok q ∧
      p.evaluate settler = q.evaluate settler ∧
      q.evaluate settler = .error (.nullReference "friends") := by
  have hdual := (quantifier_duality people {} people.root ["friends"]).1 homeless
  have hcount := (quantifier_duality people ⟨false, true⟩ people.root ["friends"]).2.2
  refine ⟨⟨_, _, rfl, rfl, hdual.2 _ _ rfl rfl numbered, ?_⟩,
    ⟨_, _, rfl, rfl, hcount _ _ rfl rfl settler settler_conforms, ?_⟩⟩
  · rfl
  · rfl

end Filter
end RecordQuery
