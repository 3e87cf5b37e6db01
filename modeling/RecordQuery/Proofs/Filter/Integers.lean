import RecordQuery.Proofs.Filter.FieldTest
import RecordQuery.Proofs.Filter.Typing

/-!
# `Proofs.Filter.Integers` — filters on integers are exact

The text of a number is kept until the type of the field is known, and then read digit by digit into
a number of 64 bits, of the kind that was declared. So no integer of the type is rounded, none that
is beyond it is taken for another one, and an integer of either kind is compared with it as an
integer. A text with a fraction or a power of ten is no integer, even if its value were one.

## Contents
- `Operator.RelatesIntegers`, `WritesInteger`, `FieldType.TakesInteger`: what filters on integers
  should do.
- `coerce?_integer`: a literal is read as the integer that it writes, if the type has it.
- `not_fits_fractional`: a number with a fraction or a power of ten is read as no integer.
- `compile_integer`, `evaluate_integer`: what becomes of a field test of an integer.
- `compile_fractional`: such a number compiles against no integers.
- `integer_filters_exact`: **filters on integers are exact.**
-/

namespace RecordQuery

/-! ## Comparing integers -/

/-- What an operator says about two integers. -/
def Operator.RelatesIntegers (op : Operator) (m n : Int) : Prop :=
  match op with
  | .eq => m = n
  | .ne => m ≠ n
  | .lt => m < n
  | .le => m ≤ n
  | .gt => n < m
  | .ge => n ≤ m
  | _ => False

theorem Operator.holds_compare (op : Operator) (m n : Int) :
    op.holds (compare m n) = true ↔ op.RelatesIntegers m n := by
  cases op with
  | eq => exact beq_iff_eq.trans Int.compare_eq_eq
  | ne => exact bne_iff_ne.trans (not_congr Int.compare_eq_eq)
  | lt => exact beq_iff_eq.trans Int.compare_eq_lt
  | le => exact bne_iff_ne.trans ((not_congr Int.compare_eq_gt).trans Int.not_lt)
  | gt => exact beq_iff_eq.trans Int.compare_eq_gt
  | ge => exact bne_iff_ne.trans ((not_congr Int.compare_eq_lt).trans Int.not_lt)
  | _ => exact ⟨nofun, nofun⟩

/-- Two numbers of the integer kinds compare as integers. -/
theorem Operator.relates_integers {op : Operator} {a b : Number} {m n : Int}
    (ha : a.integer? = some m) (hb : b.integer? = some n) :
    op.Relates false (.number a) (.number b) ↔ op.RelatesIntegers m n := by
  have hcompare : Scalar.compare? (.number a) (.number b) = some (compare m n) := by
    rw [Scalar.compare?, Number.compare?, ha, hb]
  have hrelates : op.Relates false (.number a) (.number b) ↔ op.holds (compare m n) = true := by
    simp only [Operator.Relates, hcompare]
  exact hrelates.trans (op.holds_compare m n)

namespace Filter

open Text

/-! ## Writing integers -/

/-- The number with the sign before it. -/
def signed (sign : List Char) (n : Nat) : Int := if sign = ['-'] then -n else n

/-- The text writes the integer: any number of decimal digits after an optional sign. -/
inductive WritesInteger : List Char → Int → Prop where
  | intro {sign digits : List Char} (sign_ok : IsSign sign) (digits_ok : IsDigits digits) :
      WritesInteger (sign ++ digits) (signed sign (Nat.ofDigitChars 10 digits 0))

/-- The text is a number with a fraction or a power of ten. -/
def IsFractional (cs : List Char) : Prop :=
  ∃ sign whole part power, IsSign sign ∧ IsDigits whole ∧ IsFraction part ∧ IsExponent power ∧
    part ++ power ≠ [] ∧ cs = sign ++ (whole ++ (part ++ power))

/-- A type of integers has the integer, and numbers without a sign are not written with a minus. -/
def TakesInteger (type : FieldType) (cs : List Char) (n : Int) : Prop :=
  match type with
  | .int => -(2 ^ 63) ≤ n ∧ n < 2 ^ 63
  | .uint => cs.head? ≠ some '-' ∧ 0 ≤ n ∧ n < 2 ^ 64
  | _ => False

section Read

variable {sign digits cs : List Char} {d : Char} {ds : List Char}

theorem readPlusNat?_of_isDigit (hd : isDigit d = true) :
    readPlusNat? (d :: ds) = readNat? (d :: ds) := by
  unfold readPlusNat?
  split
  · rename_i heq
    cases heq
    cases hd
  · rfl

/-- An integer is read from its digits. -/
theorem readInt?_append (hsign : IsSign sign) (hd : isDigit d = true) :
    readInt? (sign ++ d :: ds) = (readNat? (d :: ds)).map (signed sign) := by
  cases hsign with
  | absent =>
      have hnoSign : readInt? (d :: ds) = (readPlusNat? (d :: ds)).map fun n => (n : Int) := by
        unfold readInt?
        split
        · rename_i heq
          cases heq
          cases hd
        · rfl
      rw [List.nil_append, hnoSign, readPlusNat?_of_isDigit hd]
      cases readNat? (d :: ds) <;> rfl
  | plus =>
      rw [List.singleton_append, readInt?, readPlusNat?]
      · cases readNat? (d :: ds) <;> rfl
      · nofun
  | minus =>
      rw [List.singleton_append, readInt?]
      cases readNat? (d :: ds) <;> rfl

/-- A number without a sign may have a plus. -/
theorem readPlusNat?_append (hsign : IsSign sign) (hd : isDigit d = true) :
    readPlusNat? (sign ++ d :: ds) = if sign = ['-'] then none else readNat? (d :: ds) := by
  cases hsign with
  | absent => exact readPlusNat?_of_isDigit hd
  | plus => rfl
  | minus => rfl

theorem readNat?_digits (h : IsDigits digits) :
    readNat? digits = some (Nat.ofDigitChars 10 digits 0) := by
  have hall : digits.all isDigit = true := List.all_eq_true.mpr h.2
  have hsome : digits.isEmpty = false := List.isEmpty_eq_false_iff.mpr h.1
  rw [readNat?, hall, hsome, digitsValue_eq]
  rfl

theorem WritesInteger.isNumeral {n : Int} (h : WritesInteger cs n) : IsNumeral cs := by
  obtain @⟨sign, digits, hsign, hdigits⟩ := h
  have hnumeral : IsNumeral (sign ++ (digits ++ ([] ++ []))) :=
    .intro hsign hdigits .absent .absent
  rwa [List.append_nil, List.append_nil] at hnumeral

theorem WritesInteger.readInt? {n : Int} (h : WritesInteger cs n) : Text.readInt? cs = some n := by
  obtain @⟨sign, digits, hsign, hdigits⟩ := h
  have hread := readNat?_digits hdigits
  obtain ⟨d, ds, rfl, hd⟩ := hdigits.exists_cons
  rw [readInt?_append hsign hd, hread]
  rfl

/-- Without a minus the integer is a natural number, and with a minus nothing is read. -/
theorem WritesInteger.readPlusNat? {n : Int} (h : WritesInteger cs n) :
    cs.head? = some '-' ∧ Text.readPlusNat? cs = none ∨
      cs.head? ≠ some '-' ∧ ∃ k : Nat, n = k ∧ Text.readPlusNat? cs = some k := by
  obtain @⟨sign, digits, hsign, hdigits⟩ := h
  have hread := readNat?_digits hdigits
  obtain ⟨d, ds, rfl, hd⟩ := hdigits.exists_cons
  rw [readPlusNat?_append hsign hd, hread]
  cases hsign with
  | minus => exact .inl ⟨rfl, rfl⟩
  | plus => exact .inr ⟨by simp, _, rfl, rfl⟩
  | absent =>
      refine .inr ⟨?_, _, rfl, rfl⟩
      rintro ⟨⟩
      cases hd

end Read

/-! ## Reading literals -/

section Literals

variable {type : FieldType} {text : String} {n : Int}

theorem integer?_ofInt? (h : -(2 ^ 63) ≤ n ∧ n < 2 ^ 63) :
    ∃ x, Number.ofInt? n = some x ∧ x.integer? = some n :=
  ⟨_, if_pos h, congrArg some (Int64.toInt_ofInt_of_le h.1 h.2)⟩

theorem integer?_ofNat? {k : Nat} (h : k < 2 ^ 64) :
    ∃ x, Number.ofNat? k = some x ∧ x.integer? = some (k : Int) :=
  ⟨_, if_pos h, congrArg (some ∘ Nat.cast) (UInt64.toNat_ofNat_of_lt' h)⟩

/-- **A literal is read as the integer that it writes**, if the type has it. -/
theorem coerce?_integer (htype : type = .int ∨ type = .uint)
    (hwrites : WritesInteger text.toList n) :
    (TakesInteger type text.toList n ∧ ∃ x, (Literal.number text).coerce? type = some (.number x) ∧
        x.integer? = some n) ∨
      ¬TakesInteger type text.toList n ∧ (Literal.number text).coerce? type = none := by
  -- The digits are read first, as many as there are, and only then is the range looked at.
  rcases htype with rfl | rfl
  · have hcoerce : (Literal.number text).coerce? .int = (Number.ofInt? n).map .number := by
      rw [Literal.coerce?, hwrites.readInt?]
      rfl
    by_cases hrange : -(2 ^ 63) ≤ n ∧ n < 2 ^ 63
    · obtain ⟨x, hx, hinteger⟩ := integer?_ofInt? hrange
      exact .inl ⟨hrange, x, by rw [hcoerce, hx]; rfl, hinteger⟩
    · exact .inr ⟨hrange, by rw [hcoerce, Number.ofInt?, if_neg hrange]; rfl⟩
  · rcases hwrites.readPlusNat? with ⟨hminus, hread⟩ | ⟨hplus, k, rfl, hread⟩
    · exact .inr ⟨fun htakes => htakes.1 hminus, by rw [Literal.coerce?, hread]; rfl⟩
    · have hcoerce : (Literal.number text).coerce? .uint = (Number.ofNat? k).map .number := by
        rw [Literal.coerce?, hread]
        rfl
      by_cases hrange : k < 2 ^ 64
      · obtain ⟨x, hx, hinteger⟩ := integer?_ofNat? hrange
        exact .inl ⟨⟨hplus, by omega, by omega⟩, x, by rw [hcoerce, hx]; rfl, hinteger⟩
      · refine .inr ⟨?_, by rw [hcoerce, Number.ofNat?, if_neg hrange]; rfl⟩
        rintro ⟨-, -, hlt⟩
        omega

/-- A fraction or a power of ten has a character that is no digit. -/
theorem readNat?_fractional (whole : List Char) {part power : List Char} (hpart : IsFraction part)
    (hpower : IsExponent power) (hsome : part ++ power ≠ []) :
    readNat? (whole ++ (part ++ power)) = none := by
  have hall : (whole ++ (part ++ power)).all isDigit = false := by
    rw [List.all_append, List.all_append]
    -- One of the two parts is there, and starts with a point or with the letter of the power.
    cases hpart with
    | present hdigits => simp [isDigit]
    | absent =>
        cases hpower with
        | absent => exact absurd rfl hsome
        | present he hsign hdigits => rcases he with rfl | rfl <;> simp [isDigit]
  rw [readNat?, hall, Bool.and_false]
  rfl

/-- **A number with a fraction or a power of ten is no integer.** -/
theorem not_fits_fractional (htype : type = .int ∨ type = .uint)
    (h : IsFractional text.toList) : ¬(Literal.number text).Fits type := by
  obtain ⟨sign, whole, part, power, hsign, hwhole, hpart, hpower, hsome, htext⟩ := h
  have hread := readNat?_fractional whole hpart hpower hsome
  obtain ⟨d, ds, rfl, hd⟩ := hwhole.exists_cons
  rw [List.cons_append] at hread htext
  rintro ⟨s, hs⟩
  rcases htype with rfl | rfl
  · rw [Literal.coerce?, htext, readInt?_append hsign hd, hread] at hs
    cases hs
  · rw [Literal.coerce?, htext, readPlusNat?_append hsign hd, hread, ite_self] at hs
    cases hs

end Literals

/-! ## Filters -/

section Filters

variable {catalog : Catalog} {options : CompileOptions} {schema : Schema} {name text : String}
  {field : Field} {op : Operator} {n : Int}

theorem relational_supports {type : FieldType} (htype : type = .int ∨ type = .uint)
    (hop : op.isRelational = true) : op.supports type = true := by
  rcases htype with rfl | rfl <;> cases op <;> first | rfl | cases hop

/-- **A field test of an integer compiles if the type has it**, and to a test against it. -/
theorem compile_integer (hfield : schema.field? name = some field)
    (htype : field.type = .int ∨ field.type = .uint) (hop : op.isRelational = true)
    (hwrites : WritesInteger text.toList n) :
    (TakesInteger field.type text.toList n ∧ ∃ x, x.integer? = some n ∧
        compile catalog options schema (.comparison (.path [name]) op false (.number text)) =
          .ok (.compare (.field [name]) op (options.bound (.number x)) false)) ∨
      ¬TakesInteger field.type text.toList n ∧ ∃ e,
        compile catalog options schema (.comparison (.path [name]) op false (.number text)) =
          .error e := by
  have hscalar : field.type.isScalar = true := by
    rcases htype with htype | htype <;> rw [htype] <;> rfl
  have hcase : false = true → field.type = .string := nofun
  have hbinary : op ≠ .oneOf := by
    rintro rfl
    cases hop
  have hnull : Literal.number text ≠ .null := nofun
  rw [compile_fieldTest hfield hscalar hcase hbinary (relational_supports htype hop) hnull,
    Literal.coerce]
  rcases coerce?_integer htype hwrites with ⟨htakes, x, hx, hinteger⟩ | ⟨hrefused, hnone⟩
  · exact .inl ⟨htakes, x, hinteger, by rw [hx]; rfl⟩
  · exact .inr ⟨hrefused, _, by rw [hnone]; rfl⟩

/-- A test against an integer answers as the operator says of the integers. -/
theorem evaluate_integer {record : Record} {a b : Number} {m : Int} (parameter : Bool)
    (hrecord : record.field name = .scalar (.number a)) (ha : a.integer? = some m)
    (hb : b.integer? = some n) :
    Answers ((Predicate.compare (.field [name]) op ⟨.number b, parameter⟩ false).evaluate record)
      (op.RelatesIntegers m n) := by
  have hread : Operand.read (.field [name]) record = .ok (.scalar (.number a)) :=
    congrArg Except.ok hrecord
  have ha_null : Scalar.number a ≠ .null := nofun
  rw [Predicate.evaluate, hread]
  refine (answers_ok _).congr ?_
  exact (Operator.holdsOf_iff ha_null).trans (Operator.relates_integers ha hb)

/-- The left side is a field of integers or the number of elements of a collection. -/
def Subject.IsInteger (catalog : Catalog) (schema : Schema) : Subject → Prop
  | .path names => ∃ field, catalog.fieldAt? schema names = some field ∧
      (field.type = .int ∨ field.type = .uint)
  | .count _ => True

/-- The literal is the number, or a list that has it. -/
def Literal.Mentions (literal : Literal) (text : String) : Prop :=
  literal = .number text ∨ ∃ items, literal = .list items ∧ .number text ∈ items

theorem Subject.IsInteger.type_eq {left : Subject} {type : FieldType}
    (h : left.IsInteger catalog schema) (htype : left.operand.HasType catalog schema type) :
    type = .int ∨ type = .uint := by
  cases left with
  | count names =>
      cases htype
      exact .inr rfl
  | path names =>
      obtain ⟨field, hfield, hinteger⟩ := h
      cases htype with
      | field at_end scalar =>
          cases hfield.symm.trans at_end
          exact hinteger

/-- **A number with a fraction or a power of ten compiles against no integers.** -/
theorem compile_fractional {left : Subject} {op : Operator} {ignoreCase : Bool} {right : Literal}
    {p : Predicate} (hleft : left.IsInteger catalog schema)
    (hfractional : IsFractional text.toList) (hright : right.Mentions text) :
    compile catalog options schema (.comparison left op ignoreCase right) ≠ .ok p := by
  intro h
  obtain ⟨hnode, -⟩ := compile_wellTyped _ h
  cases hnode with
  | comparison subject flag suits =>
      have hfits := not_fits_fractional (hleft.type_eq subject) hfractional
      rcases hright with rfl | ⟨items, rfl, hmem⟩
      · cases suits with
        | value binary supports fits => exact hfits fits
      · cases suits with
        | list hitems =>
            -- an item is null or has the type of the elements
            rcases hitems _ hmem with hnull | hitem
            · cases hnull
            · exact hfits hitem
        | value binary supports fits =>
            obtain ⟨s, hs⟩ := fits
            cases hs

/-- **Filters on integers are exact.** A field test with an integer literal keeps the literal as it
is written; it compiles just if the type of the field has the integer, and a type without negative
numbers takes no minus; and where a record has an integer there, of either kind, the test answers as
the operator says of the two integers. No fraction and no power of ten is taken for an integer. -/
theorem integer_filters_exact (catalog : Catalog) (options : CompileOptions) (schema : Schema) :
    (∀ (name : String) (field : Field) (op : Operator) (text : String) (n : Int),
      IsIdentifier name → schema.field? name = some field →
      (field.type = .int ∨ field.type = .uint) → op.isRelational = true →
      WritesInteger text.toList n →
      parse (fieldTest name op false text) =
        .ok (.comparison (.path [name]) op false (.number text)) ∧
      ((∃ p, compile catalog options schema (.comparison (.path [name]) op false (.number text)) =
        .ok p) ↔ TakesInteger field.type text.toList n) ∧
      ∀ p, compile catalog options schema (.comparison (.path [name]) op false (.number text)) =
        .ok p → ∀ (record : Record) (number : Number) (m : Int),
          record.field name = .scalar (.number number) → number.integer? = some m →
          Answers (p.evaluate record) (op.RelatesIntegers m n)) ∧
    ∀ (left : Subject) (op : Operator) (ignoreCase : Bool) (right : Literal) (text : String),
      left.IsInteger catalog schema → IsFractional text.toList → right.Mentions text →
      ∀ p, compile catalog options schema (.comparison left op ignoreCase right) ≠ .ok p := by
  refine ⟨?_, fun left op ignoreCase right text hleft hfractional hright p =>
    compile_fractional hleft hfractional hright⟩
  intro name field op text n hname hfield htype hop hwrites
  have hbinary : op ≠ .oneOf := by
    rintro rfl
    cases hop
  refine ⟨parse_fieldTest (.number text) hname hbinary (.number text) hwrites.isNumeral false, ?_⟩
  rcases compile_integer hfield htype hop hwrites with
    ⟨htakes, x, hx, hcompile⟩ | ⟨hrefused, e, hcompile⟩
  · refine ⟨iff_of_true ⟨_, hcompile⟩ htakes, ?_⟩
    intro p hp record number m hrecord hnumber
    cases hcompile.symm.trans hp
    exact evaluate_integer _ hrecord hnumber hx
  · refine ⟨iff_of_false ?_ hrefused, ?_⟩
    · rintro ⟨p, hp⟩
      cases hcompile.symm.trans hp
    · intro p hp
      cases hcompile.symm.trans hp

/-- A schema with an unsigned number and a collection. -/
def stock : Schema := ⟨"Stock", [⟨"units", .uint, false⟩, ⟨"batches", .list .string, false⟩]⟩

/-- The largest number of the type, written with a zero before it, and a record with a negative
number there; and a power of ten as the number of elements of a collection. -/
theorem integer_filters_exact_largest :
    parse (fieldTest "units" .lt false "018446744073709551615") =
      .ok (.comparison (.path ["units"]) .lt false (.number "018446744073709551615")) ∧
    (∃ p, compile ⟨[]⟩ default stock
        (.comparison (.path ["units"]) .lt false (.number "018446744073709551615")) = .ok p ∧
      Answers (p.evaluate [("units", .scalar (.number (.int (-1))))])
        (Operator.lt.RelatesIntegers (-1) (2 ^ 64 - 1))) ∧
    ∀ p, compile ⟨[]⟩ default stock (.comparison (.count ["batches"]) .eq false (.number "1e0")) ≠
      .ok p := by
  have hname : IsIdentifier "units" := ⟨⟨'u', ['n', 'i', 't', 's'], rfl, rfl, rfl⟩, by decide⟩
  have hdigits : IsDigits "018446744073709551615".toList :=
    ⟨by decide, List.all_eq_true.mp (by decide)⟩
  have hwrites : WritesInteger "018446744073709551615".toList (2 ^ 64 - 1) := .intro .absent hdigits
  have htakes : TakesInteger .uint "018446744073709551615".toList (2 ^ 64 - 1) :=
    ⟨by decide, by decide, by decide⟩
  have hdigit {d : Char} (hd : isDigit d = true) : IsDigits [d] :=
    ⟨List.cons_ne_nil _ _, List.forall_mem_singleton.mpr hd⟩
  have hfractional : IsFractional "1e0".toList :=
    ⟨[], ['1'], [], ['e', '0'], .absent, hdigit rfl, .absent,
      .present (.inl rfl) .absent (hdigit rfl), by decide, rfl⟩
  obtain ⟨hexact, hnone⟩ := integer_filters_exact ⟨[]⟩ default stock
  obtain ⟨hparse, hcompile, hanswers⟩ :=
    hexact "units" _ .lt _ _ hname rfl (.inr rfl) rfl hwrites
  obtain ⟨p, hp⟩ := hcompile.mpr htakes
  exact ⟨hparse, ⟨p, hp, hanswers p hp _ (.int (-1)) (-1) rfl rfl⟩,
    hnone (.count ["batches"]) .eq false (.number "1e0") "1e0" trivial hfractional (.inl rfl)⟩

end Filters
end Filter
end RecordQuery
