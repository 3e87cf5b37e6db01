import Mathlib.Logic.Relation
import RecordQuery.Proofs.Filter.CompiledForm

/-!
# `Proofs.Filter.Grouping` — groups of one connective make no difference

A chain may be written with groups of the same connective in it, the parser flattens such groups by
`join`, and the builders of predicates flatten once more what is left of them. Whoever does it, the
compiled predicate is the same, and so is the error of a filter that does not compile: terms are
compiled from left to right, and dissolving a group keeps their order. Groups that fold to a
constant or to a single term are no exception, since what is compiled is in normal form.

## Contents
- `Node.Regroups`: one group of a connective is dissolved, at any depth of a filter.
- `Node.regroups_join`: joining terms dissolves groups.
- `compileAll_append`: terms are compiled one after the other.
- `Node.Regroups.compile_eq`: dissolving a group changes nothing.
- `compile_ignores_grouping`: **nor does any regrouping.**
-/

namespace RecordQuery.Filter

open Relation (EqvGen)

/-! ## Regrouping -/

/-- Somewhere in the filter a group of terms is dissolved in a chain of the same connective, or a
chain of a single term stands for that term. -/
inductive Node.Regroups : Node → Node → Prop where
  | group (connective : Connective) (before inner after : List Node) :
      Regroups (.logical connective (before ++ .logical connective inner :: after))
        (.logical connective (before ++ inner ++ after))
  | single (connective : Connective) (only : Node) : Regroups (.logical connective [only]) only
  | term (connective : Connective) (before after : List Node) {a b : Node} (h : Regroups a b) :
      Regroups (.logical connective (before ++ a :: after))
        (.logical connective (before ++ b :: after))
  | not {a b : Node} (h : Regroups a b) : Regroups (.not a) (.not b)
  | body (quantifier : Quantifier) (source : Path) {a b : Node} (h : Regroups a b) :
      Regroups (.quantified quantifier source (some a)) (.quantified quantifier source (some b))

/-- Splicing dissolves the groups among the terms, from left to right. -/
theorem Node.regroups_splice (connective : Connective) (front terms : List Node) :
    EqvGen Regroups (.logical connective (front ++ terms))
      (.logical connective (front ++ terms.flatMap (spliced connective))) := by
  induction terms generalizing front with
  | nil => exact .refl _
  | cons term terms ih =>
      rw [List.flatMap_cons, ← List.append_assoc]
      have hkeep (h : term.spliced connective = [term]) :
          EqvGen Regroups (.logical connective (front ++ term :: terms)) (.logical connective
            (front ++ term.spliced connective ++ terms.flatMap (spliced connective))) := by
        rw [h, List.append_cons front term terms]
        exact ih (front ++ [term])
      cases term with
      | logical inner group =>
          by_cases hinner : inner = connective
          · subst hinner
            rw [spliced, if_pos rfl]
            exact .trans _ _ _ (.rel _ _ (.group inner front group terms)) (ih (front ++ group))
          · exact hkeep (if_neg hinner)
      | _ => exact hkeep rfl

/-- **Joining terms regroups their chain.** -/
theorem Node.regroups_join (connective : Connective) (terms : List Node) :
    EqvGen Regroups (.logical connective terms) (join connective terms) := by
  have hsplice := regroups_splice connective [] terms
  rw [List.nil_append, List.nil_append] at hsplice
  rw [join]
  split
  · rename_i only honly
    rw [honly] at hsplice
    exact .trans _ _ _ hsplice (.rel _ _ (.single connective only))
  · exact hsplice

/-! ## Compiling -/

variable {catalog : Catalog} {options : CompileOptions} {schema : Schema}

/-- Terms are compiled one after the other, and the first error ends it. -/
theorem compileAll_append (front back : List Node) :
    compileAll catalog options schema (front ++ back) =
      (compileAll catalog options schema front).bind fun predicates =>
        (compileAll catalog options schema back).map (predicates ++ ·) := by
  induction front with
  | nil =>
      rw [List.nil_append, compileAll]
      cases compileAll catalog options schema back <;> rfl
  | cons term front ih =>
      rw [List.cons_append, compileAll, compileAll, ih]
      cases compile catalog options schema term with
      | error e => rfl
      | ok p =>
          cases compileAll catalog options schema front with
          | error e => rfl
          | ok predicates => cases compileAll catalog options schema back <;> rfl

/-- A chain in which one term is compiled by itself. -/
theorem compile_logical_append (connective : Connective) (before after : List Node) (term : Node) :
    compile catalog options schema (.logical connective (before ++ term :: after)) =
      (compileAll catalog options schema before).bind fun front =>
        (compile catalog options schema term).bind fun p =>
          (compileAll catalog options schema after).map fun back =>
            .connect connective (front ++ p :: back) := by
  rw [compile_logical_eq, compileAll_append, compileAll]
  cases compileAll catalog options schema before with
  | error e => rfl
  | ok front =>
      cases compile catalog options schema term with
      | error e => rfl
      | ok p => cases compileAll catalog options schema after <;> rfl

theorem compile_group (connective : Connective) (before inner after : List Node) :
    compile catalog options schema
        (.logical connective (before ++ .logical connective inner :: after)) =
      compile catalog options schema (.logical connective (before ++ inner ++ after)) := by
  rw [compile_logical_append, compile_logical_eq connective inner,
    compile_logical_eq connective (before ++ inner ++ after), compileAll_append, compileAll_append]
  cases compileAll catalog options schema before with
  | error e => rfl
  | ok front =>
      cases hinner : compileAll catalog options schema inner with
      | error e => rfl
      | ok group =>
          cases compileAll catalog options schema after with
          | error e => rfl
          | ok back =>
              have hgroup := isNormal_compileAll inner hinner
              exact congrArg Except.ok (Predicate.connect_group hgroup front back)

theorem compile_single (connective : Connective) (only : Node) :
    compile catalog options schema (.logical connective [only]) =
      compile catalog options schema only := by
  rw [← List.nil_append [only], compile_logical_append, compileAll]
  cases honly : compile catalog options schema only with
  | error e => rfl
  | ok p => exact congrArg Except.ok (Predicate.connect_singleton connective
      (isNormal_compile only honly))

/-- **Dissolving a group changes neither the predicate nor the error**, for the records of whatever
schema: below a quantifier it is that of the elements. -/
theorem Node.Regroups.compile_eq {a b : Node} (h : a.Regroups b) (schema : Schema) :
    compile catalog options schema a = compile catalog options schema b := by
  induction h generalizing schema with
  | group connective before inner after => exact compile_group connective before inner after
  | single connective only => exact compile_single connective only
  | term connective before after _ ih =>
      rw [compile_logical_append, compile_logical_append, ih]
  | not _ ih => rw [compile_not_eq, compile_not_eq, ih]
  | body quantifier source _ ih => simp only [compile, ih]

/-- Filters that differ by any number of groups compile alike. -/
theorem compile_eq_of_eqvGen {a b : Node} (h : EqvGen Node.Regroups a b) :
    compile catalog options schema a = compile catalog options schema b := by
  induction h with
  | rel a b h => exact h.compile_eq schema
  | refl a => rfl
  | symm a b _ ih => exact ih.symm
  | trans a b c _ _ ihab ihbc => exact ihab.trans ihbc

/-- **Compilation does not see grouping.** Joined terms compile to what the chain of the terms as
they stand compiles to; and filters that differ only by groups of a connective inside chains of the
same connective, wherever these are, compile to the same predicate or to the same error. -/
theorem compile_ignores_grouping (catalog : Catalog) (options : CompileOptions) (schema : Schema) :
    (∀ (connective : Connective) (terms : List Node),
      compile catalog options schema (.join connective terms) =
        compile catalog options schema (.logical connective terms)) ∧
    ∀ a b : Node, EqvGen Node.Regroups a b →
      compile catalog options schema a = compile catalog options schema b := by
  refine ⟨?_, fun a b hab => compile_eq_of_eqvGen hab⟩
  intro connective terms
  exact (compile_eq_of_eqvGen (Node.regroups_join connective terms)).symm

/-- `id in []` -/
def nobody : Node := .comparison (.path ["id"]) .oneOf false (.list [])

/-- `!friends:any()` -/
def friendless : Node := .not (.quantified .any ["friends"] none)

theorem compile_ignores_grouping_nobody :
    (∃ p, compile people {} people.root
        (.not (.logical .or [.logical .or [nobody, friendless], homeless])) = .ok p ∧
      compile people {} people.root (.not (.logical .or [nobody, friendless, homeless])) = .ok p) ∧
    compile people {} people.root (.join .and [.logical .and [nobody], homeless]) =
      compile people {} people.root (.logical .and [.logical .and [nobody], homeless]) := by
  have hgroup := (compile_ignores_grouping people {} people.root).2 _ _
    (.rel _ _ (.not (.group .or [] [nobody, friendless] [homeless])))
  have hjoin := (compile_ignores_grouping people {} people.root).1 .and
    [.logical .and [nobody], homeless]
  exact ⟨⟨_, rfl, hgroup.symm.trans rfl⟩, hjoin⟩

end RecordQuery.Filter
