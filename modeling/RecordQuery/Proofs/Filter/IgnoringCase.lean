import RecordQuery.Proofs.Filter.Membership
import RecordQuery.Proofs.Filter.Typing
import RecordQuery.Proofs.Text.Context

/-!
# `Proofs.Filter.IgnoringCase` — what a filter that ignores case still selects

A filter that ignores case lowers the field and the literal, each as a whole. Equal texts are equal
when they are lowered, so `==` and `in` select what they select without the flag. A text inside
another is not inside it when both are lowered if a capital sigma of it ends a word in one of them
only: `'ΑΣΣΟΣ' ^= 'ΑΣ'` holds, but `ασσος` does not start with `ας`. Where the capital sigmas keep
their ends, and so for every literal that has none, the three substring operators select what they
select without the flag.

## Contents
- `selects_text_iff`: a comparison of a text selects what it says of the text.
- `valueMeets_eq_ignoringCase`, `valueMeets_oneOf_ignoringCase`: equality and membership.
- `relatesTexts_lower`, `keepsEnds_of_relatesTexts_lower`: the substring operators.
- `selects_ignoringCase`: **the law**; `not_selects_ignoringCase`: where it ends.
-/

namespace RecordQuery

/-! ## Operators -/

/-- The places where an operator looks for one text in another. -/
def Operator.LooksBetween (op : Operator) (front back : List Char) : Prop :=
  match op with
  | .startsWith => front = []
  | .endsWith => back = []
  | _ => True

/-- The operator finds the text at a place where each of its capital sigmas ends a word just if it
does in the text alone. -/
def Operator.KeepsEnds (op : Operator) (a b : String) : Prop :=
  ∃ front back, a.toList = front ++ b.toList ++ back ∧ op.LooksBetween front back ∧
    Text.KeepsEnds front.reverse back b.toList

section Operators

variable {op : Operator} {a b : String}

/-- The operator finds a text at a place. -/
theorem Operator.relatesTexts_iff_exists (hop : op.isSubstring = true) : op.RelatesTexts a b ↔
    ∃ front back, a.toList = front ++ b.toList ++ back ∧ op.LooksBetween front back := by
  cases op with
  | contains =>
      constructor
      · rintro ⟨front, back, h⟩
        exact ⟨front, back, h.symm, trivial⟩
      · rintro ⟨front, back, h, -⟩
        exact ⟨front, back, h.symm⟩
  | startsWith =>
      constructor
      · rintro ⟨back, h⟩
        exact ⟨[], back, h.symm, rfl⟩
      · rintro ⟨_, back, h, rfl⟩
        exact ⟨back, h.symm⟩
  | endsWith =>
      constructor
      · rintro ⟨front, h⟩
        exact ⟨front, [], by rw [h, List.append_nil], rfl⟩
      · rintro ⟨front, _, h, rfl⟩
        exact ⟨front, by rw [h, List.append_nil]⟩
  | _ => cases hop

/-- **What an operator finds it finds in the lowered text**, if the capital sigmas keep their
ends. -/
theorem Operator.relatesTexts_lower (hop : op.isSubstring = true) (h : op.KeepsEnds a b) :
    op.RelatesTexts (Text.lower a) (Text.lower b) := by
  obtain ⟨front, back, heq, hplace, hkeeps⟩ := h
  cases op with
  | contains => exact Text.lower_infix heq hkeeps
  | startsWith =>
      cases hplace
      exact (Text.lower_prefix_iff heq).mpr hkeeps
  | endsWith =>
      cases hplace
      rw [List.append_nil] at heq
      exact (Text.lower_suffix_iff heq).mpr hkeeps
  | _ => cases hop

/-- At the start and at the end there is one place to look at. -/
theorem Operator.keepsEnds_of_relatesTexts_lower (hop : op = .startsWith ∨ op = .endsWith)
    (h : op.RelatesTexts a b) (hlower : op.RelatesTexts (Text.lower a) (Text.lower b)) :
    op.KeepsEnds a b := by
  rcases hop with rfl | rfl
  · obtain ⟨back, heq⟩ := h
    exact ⟨[], back, heq.symm, rfl, (Text.lower_prefix_iff heq.symm).mp hlower⟩
  · obtain ⟨front, heq⟩ := h
    exact ⟨front, [], by rw [heq, List.append_nil], rfl,
      (Text.lower_suffix_iff heq.symm).mp hlower⟩

/-- Equal values are equal without regard to case. -/
theorem Operator.relates_eq_ignoringCase {s other : Scalar}
    (h : Operator.eq.Relates false s other) : Operator.eq.Relates true s other := by
  cases s with
  | string a =>
      cases other with
      | string b =>
          have hcompare : compare a b = .eq := eq_of_beq h
          have hlower : compare (Text.lower a) (Text.lower b) = .eq := by
            rw [Std.LawfulEqOrd.eq_of_compare hcompare]
            exact Std.ReflOrd.compare_self
          exact beq_iff_eq.mpr hlower
      | _ => exact h
  | _ => exact h

end Operators

namespace Filter

variable {catalog : Catalog} {options : CompileOptions} {schema : Schema} {record : Record}
  {names : Path} {field : Field} {a : String} {op : Operator} {ignoreCase : Bool} {right : Literal}

/-! ## Comparisons of a text -/

/-- The filter compiles, and the record meets it. -/
def Node.Selects (catalog : Catalog) (options : CompileOptions) (schema : Schema) (record : Record)
    (node : Node) : Prop :=
  ∃ p, compile catalog options schema node = .ok p ∧ p.evaluate record = .ok true

/-- A comparison of a text that can be read says what it means, with guards and without. -/
theorem compile_text_answers {p : Predicate}
    (hfield : catalog.fieldAt? schema names = some field) (htype : field.type = .string)
    (hread : names.read record = .ok (.scalar (.string a)))
    (hp : compile catalog options schema (.comparison (.path names) op ignoreCase right) = .ok p) :
    Answers (p.evaluate record) (ValueMeets .string (.scalar (.string a)) op ignoreCase right) := by
  obtain ⟨target, bare, htarget, -, hbare, rfl⟩ := compileComparison_ok hp
  obtain ⟨found, route, rfl, -, rfl⟩ := target_path htarget
  cases route.fieldAt?.symm.trans hfield
  rw [← htype]
  have hvalue : ∃ s, Value.scalar (.string a) = .scalar s ∧ s ≠ .null := ⟨_, rfl, nofun⟩
  exact comparison_answers htarget hread (.inr hvalue) (route.clear_of_readFrom hread) hbare

/-- **A comparison selects a record just if it is well typed and says so of the text.** -/
theorem selects_text_iff (hfield : catalog.fieldAt? schema names = some field)
    (htype : field.type = .string) (hread : names.read record = .ok (.scalar (.string a))) :
    (Node.comparison (.path names) op ignoreCase right).Selects catalog options schema record ↔
      RightSide .string (.path names) op right ∧
        ValueMeets .string (.scalar (.string a)) op ignoreCase right := by
  constructor
  · rintro ⟨p, hp, htrue⟩
    obtain ⟨hnode, -⟩ := compile_wellTyped _ hp
    obtain ⟨answer, hanswer, hmeets⟩ := compile_text_answers hfield htype hread hp
    cases hanswer.symm.trans htrue
    refine ⟨?_, hmeets.mp rfl⟩
    cases hnode with
    | comparison subject _ suits =>
        cases subject with
        | field at_end _ =>
            cases hfield.symm.trans at_end
            rwa [htype] at suits
  · rintro ⟨hsuits, hmeets⟩
    have hsubject : (Subject.path names).operand.HasType catalog schema .string := by
      rw [← htype]
      exact .field hfield (by rw [htype]; rfl)
    have hnode : (Node.comparison (.path names) op ignoreCase right).WellTyped catalog schema :=
      .comparison hsubject (fun _ => rfl) hsuits
    obtain ⟨p, hp⟩ := hnode.exists_compile options
    obtain ⟨answer, hanswer, hiff⟩ := compile_text_answers hfield htype hread hp
    rw [hiff.mpr hmeets] at hanswer
    exact ⟨p, hp, hanswer⟩

/-! ## Equality and membership -/

theorem valueMeets_eq_ignoringCase {type : FieldType} {v : Value}
    (h : ValueMeets type v .eq false right) : ValueMeets type v .eq true right := by
  by_cases hnull : right = .null
  · subst hnull
    exact h
  · obtain ⟨s, hs, hne, other, hother, hrelates⟩ := (valueMeets_value hnull).mp h
    exact (valueMeets_value hnull).mpr
      ⟨s, hs, hne, other, hother, Operator.relates_eq_ignoringCase hrelates⟩

theorem valueMeets_oneOf_ignoringCase {type : FieldType} {v : Value} {items : List Literal}
    (h : ValueMeets type v .oneOf false (.list items)) :
    ValueMeets type v .oneOf true (.list items) := by
  obtain ⟨item, hitem, hmeets⟩ := valueMeets_list.mp h
  exact valueMeets_list.mpr ⟨item, hitem, valueMeets_eq_ignoringCase hmeets⟩

/-! ## Substrings -/

/-- What a comparison with a text literal says of a text. -/
theorem valueMeets_texts {b : String} :
    ValueMeets .string (.scalar (.string a)) op ignoreCase (.string b) ↔
      if ignoreCase then op.RelatesTexts (Text.lower a) (Text.lower b) else op.RelatesTexts a b := by
  have hnull : Literal.string b ≠ .null := nofun
  have hlist : ∀ items, Literal.string b ≠ .list items := nofun
  rw [valueMeets_literal hnull hlist]
  constructor
  · rintro (⟨h, -⟩ | ⟨s, hs, -, other, hother, hrelates⟩)
    · cases h
    · cases hs
      cases hother
      exact hrelates
  · intro h
    exact .inr ⟨_, rfl, nofun, _, rfl, h⟩

/-! ## The law -/

/-- **Ignoring case is hardly ever stricter.** If a comparison of a text selects a record, then so
does the same comparison without regard to case: always if it is `==` or `in`; and if it looks for
one text in another, wherever the capital sigmas of the literal keep their ends, which is the only
case for `^=` and `$=` and is so for every literal without a capital sigma. -/
theorem selects_ignoringCase (catalog : Catalog) (options : CompileOptions) (schema : Schema)
    (record : Record) (hfield : catalog.fieldAt? schema names = some field)
    (htype : field.type = .string) (hread : names.read record = .ok (.scalar (.string a)))
    (hplain : (Node.comparison (.path names) op false right).Selects catalog options schema record) :
    (op = .eq ∨ op = .oneOf →
      (Node.comparison (.path names) op true right).Selects catalog options schema record) ∧
    ∀ b, op.isSubstring = true → right = .string b →
      (op.KeepsEnds a b →
        (Node.comparison (.path names) op true right).Selects catalog options schema record) ∧
      (op = .startsWith ∨ op = .endsWith →
        (Node.comparison (.path names) op true right).Selects catalog options schema record →
        op.KeepsEnds a b) ∧
      ('Σ' ∉ b.toList →
        (Node.comparison (.path names) op true right).Selects catalog options schema record) := by
  obtain ⟨hsuits, hmeets⟩ := (selects_text_iff hfield htype hread).mp hplain
  refine ⟨?_, ?_⟩
  · intro hop
    refine (selects_text_iff hfield htype hread).mpr ⟨hsuits, ?_⟩
    rcases hop with rfl | rfl
    · exact valueMeets_eq_ignoringCase hmeets
    · -- what suits `in` is a list
      cases hsuits with
      | null hop => rcases hop with hop | hop <;> cases hop
      | list _ => exact valueMeets_oneOf_ignoringCase hmeets
      | value binary _ _ => exact absurd rfl binary
  · rintro b hop rfl
    have hfinds : op.RelatesTexts a b := (valueMeets_texts).mp hmeets
    have hkeeps (h : op.KeepsEnds a b) :
        (Node.comparison (.path names) op true (.string b)).Selects catalog options schema record :=
      (selects_text_iff hfield htype hread).mpr
        ⟨hsuits, (valueMeets_texts).mpr (Operator.relatesTexts_lower hop h)⟩
    refine ⟨hkeeps, ?_, ?_⟩
    · intro hplace hselects
      obtain ⟨-, hlower⟩ := (selects_text_iff hfield htype hread).mp hselects
      exact Operator.keepsEnds_of_relatesTexts_lower hplace hfinds ((valueMeets_texts).mp hlower)
    · intro hsigma
      obtain ⟨front, back, heq, hplace⟩ := (Operator.relatesTexts_iff_exists hop).mp hfinds
      exact hkeeps ⟨front, back, heq, hplace, Text.keepsEnds_of_not_mem hsigma⟩

/-- Someone who lives in a city of that name. -/
def citizen (city : String) : Record :=
  [("home", .record [("city", .scalar (.string city))])]

/-- The name of the city against a text. -/
def cityTest (op : Operator) (ignoreCase : Bool) (text : String) : Node :=
  .comparison (.path ["home", "city"]) op ignoreCase (.string text)

/-- A final sigma that stays one. -/
theorem selects_ignoringCase_patras :
    (cityTest .contains false "ΠΑΤΡΑΣ").Selects people {} people.root (citizen "ΝΕΑ ΠΑΤΡΑΣ 2") ∧
      (cityTest .contains true "ΠΑΤΡΑΣ").Selects people {} people.root (citizen "ΝΕΑ ΠΑΤΡΑΣ 2") := by
  have hplain : (cityTest .contains false "ΠΑΤΡΑΣ").Selects people {} people.root
      (citizen "ΝΕΑ ΠΑΤΡΑΣ 2") := ⟨_, rfl, rfl⟩
  have hkeeps : Operator.contains.KeepsEnds "ΝΕΑ ΠΑΤΡΑΣ 2" "ΠΑΤΡΑΣ" :=
    ⟨"ΝΕΑ ".toList, " 2".toList, by decide +kernel, trivial, by decide +kernel⟩
  have hfield : people.fieldAt? people.root ["home", "city"] = some ⟨"city", .string, true⟩ := rfl
  have hread : Path.read ["home", "city"] (citizen "ΝΕΑ ΠΑΤΡΑΣ 2") =
      .ok (.scalar (.string "ΝΕΑ ΠΑΤΡΑΣ 2")) := rfl
  obtain ⟨-, hlaw⟩ := selects_ignoringCase people {} people.root _ hfield rfl hread hplain
  exact ⟨hplain, (hlaw "ΠΑΤΡΑΣ" rfl rfl).1 hkeeps⟩

/-- **Where the law ends.** A sigma that is final in the literal and not in the text, or the other
way round. -/
theorem not_selects_ignoringCase :
    ((cityTest .startsWith false "ΑΣ").Selects people {} people.root (citizen "ΑΣΣΟΣ") ∧
      ¬(cityTest .startsWith true "ΑΣ").Selects people {} people.root (citizen "ΑΣΣΟΣ")) ∧
    ((cityTest .contains false "ΑΣ").Selects people {} people.root (citizen "ΑΣΣΟΣ") ∧
      ¬(cityTest .contains true "ΑΣ").Selects people {} people.root (citizen "ΑΣΣΟΣ")) ∧
    (cityTest .endsWith false "Σ").Selects people {} people.root (citizen "ΑΣΣΟΣ") ∧
      ¬(cityTest .endsWith true "Σ").Selects people {} people.root (citizen "ΑΣΣΟΣ") := by
  refine ⟨⟨⟨_, rfl, rfl⟩, ?_⟩, ⟨⟨_, rfl, rfl⟩, ?_⟩, ⟨_, rfl, rfl⟩, ?_⟩
  all_goals
    rintro ⟨p, hp, htrue⟩
    cases hp
    revert htrue
    decide +kernel

end Filter
end RecordQuery
