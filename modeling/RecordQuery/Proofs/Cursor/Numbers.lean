import RecordQuery.Proofs.Cursor.RoundTrip
import RecordQuery.Proofs.Number.Exact

/-!
# `Proofs.Cursor.Numbers` — a token never changes a number

The number of a token may be read for a key of another kind of number, because whoever made the
token may have held it in that kind. It is read just if the kind has the very number: an integer of
the range, or one that is some floating-point number. So an anchor is never moved by rounding it, by
taking an integer from the other end of the range, or by stopping at the end of the range.

## Contents
- `FieldType.HasNumber`, `Number.ConvertsTo`: the kinds that have a number, and the number in a kind.
- `FieldType.ofInteger?_spec`: an integer is found in each kind that has it, and in no other.
- `Entry.scalar?_number`: the entry of a number as a value of a kind.
- `number_conversion`: **a token gives the number in another kind, or a mismatch.**
-/

namespace RecordQuery

/-! ## Numbers in another kind -/

/-- The kind of number has the number. An integer is not taken from a floating-point number, even if
    it is one. -/
def FieldType.HasNumber (type : FieldType) (number : Number) : Prop :=
  match type with
  | .int => ∃ n, number.integer? = some n ∧ -(2 ^ 63) ≤ n ∧ n < 2 ^ 63
  | .uint => ∃ n, number.integer? = some n ∧ 0 ≤ n ∧ n < 2 ^ 64
  | .float => (∃ x, number = .float x) ∨
      ∃ n x, number.integer? = some n ∧ Binary64.rational? x = some (n : Rat)
  | _ => False

/-- The same number, held in the kind that the type names; where it is held so, it stays. -/
structure Number.ConvertsTo (number : Number) (type : FieldType) (other : Number) : Prop where
  kind : Scalar.IsOfKind type (.number other)
  rational : other.rational? = number.rational?
  same : Scalar.IsOfKind type (.number number) → other = number

theorem Number.rational?_of_integer? {number : Number} {n : Int} (h : number.integer? = some n) :
    number.rational? = some (n : Rat) := by
  cases number <;> cases h
  · rfl
  · exact congrArg some (Rat.intCast_natCast _).symm

/-- The number of a kind that is the integer. -/
def FieldType.ofInteger? (type : FieldType) (n : Int) : Option Number :=
  match type with
  | .int => Number.ofInt? n
  | .uint => if 0 ≤ n then Number.ofNat? n.toNat else none
  | .float => (Binary64.exactOfInt? n).map .float
  | _ => none

section Integers

variable {number : Number} {n : Int}

theorem Number.convertsTo_int (h : number.integer? = some n) (hlow : -(2 ^ 63) ≤ n)
    (hhigh : n < 2 ^ 63) : number.ConvertsTo .int (.int (.ofInt n)) where
  kind := trivial
  rational := by
    rw [Number.rational?_of_integer? h, Number.rational?, Int64.toInt_ofInt_of_le hlow hhigh]
  same hkind := by
    cases number with
    | int m =>
        cases h
        rw [Int64.ofInt_toInt]
    | _ => exact hkind.elim

theorem Number.convertsTo_uint (h : number.integer? = some n) (hlow : 0 ≤ n) (hhigh : n < 2 ^ 64) :
    number.ConvertsTo .uint (.uint (.ofNat n.toNat)) where
  kind := trivial
  rational := by
    have hlt : n.toNat < 2 ^ 64 := by omega
    rw [Number.rational?_of_integer? h, Number.rational?, UInt64.toNat_ofNat_of_lt' hlt,
      ← Rat.intCast_natCast, Int.toNat_of_nonneg hlow]
  same hkind := by
    cases number with
    | uint m =>
        cases h
        rw [Int.toNat_natCast, UInt64.ofNat_toNat]
    | _ => exact hkind.elim

theorem Number.convertsTo_float {x : Binary64} (h : number.integer? = some n)
    (hx : Binary64.exactOfInt? n = some x) : number.ConvertsTo .float (.float x) where
  kind := trivial
  rational := by
    rw [Number.rational?_of_integer? h]
    exact Binary64.rational?_exactOfInt? hx
  same hkind := by
    cases number with
    | float y => cases h
    | _ => exact hkind.elim

/-- **An integer is found in each kind that has it**, and in no other. -/
theorem FieldType.ofInteger?_spec {type : FieldType} (htype : type.isNumeric = true)
    (h : number.integer? = some n) :
    (type.HasNumber number ∧ ∃ other, type.ofInteger? n = some other ∧
        number.ConvertsTo type other) ∨
      ¬type.HasNumber number ∧ type.ofInteger? n = none := by
  cases type with
  | int =>
      by_cases hrange : -(2 ^ 63) ≤ n ∧ n < 2 ^ 63
      · exact .inl ⟨⟨n, h, hrange⟩, _, if_pos hrange, Number.convertsTo_int h hrange.1 hrange.2⟩
      · refine .inr ⟨?_, if_neg hrange⟩
        rintro ⟨m, hm, hin⟩
        cases h.symm.trans hm
        exact hrange hin
  | uint =>
      by_cases hrange : 0 ≤ n ∧ n < 2 ^ 64
      · obtain ⟨hlow, hhigh⟩ := hrange
        refine .inl ⟨⟨n, h, hlow, hhigh⟩, _, ?_, Number.convertsTo_uint h hlow hhigh⟩
        have hlt : n.toNat < 2 ^ 64 := by omega
        rw [FieldType.ofInteger?, if_pos hlow, Number.ofNat?, if_pos hlt]
      · refine .inr ⟨?_, ?_⟩
        · rintro ⟨m, hm, hin⟩
          cases h.symm.trans hm
          exact hrange hin
        · rw [FieldType.ofInteger?]
          split
          · rename_i hlow
            have hge : ¬n.toNat < 2 ^ 64 := by omega
            exact if_neg hge
          · rfl
  | float =>
      cases hx : Binary64.exactOfInt? n with
      | some x =>
          refine .inl ⟨.inr ⟨n, x, h, Binary64.rational?_exactOfInt? hx⟩, .float x, ?_,
            Number.convertsTo_float h hx⟩
          rw [FieldType.ofInteger?, hx, Option.map_some]
      | none =>
          refine .inr ⟨?_, by rw [FieldType.ofInteger?, hx, Option.map_none]⟩
          rintro (⟨x, rfl⟩ | ⟨m, x, hm, hrational⟩)
          · cases h
          · cases h.symm.trans hm
            obtain ⟨y, hy⟩ := Binary64.exists_exactOfInt? hrational
            cases hx.symm.trans hy
  | _ => cases htype

end Integers

/-! ## Entries -/

namespace Entry

variable {number : Number} {entry : Entry} {type : FieldType} {nullable : Bool}

/-- The entry of an integer stands for it in every kind that has it. -/
theorem scalar?_integer {n : Int} (h : number.integer? = some n)
    (hentry : ofScalar? (.number number) = some entry) :
    entry.scalar? ⟨type, nullable⟩ = (type.ofInteger? n).map .number := by
  cases number with
  | int m =>
      cases h
      cases hentry
      have hlow := m.le_toInt
      have hhigh := m.toInt_lt
      cases type with
      | int =>
          show _ = (Number.ofInt? m.toInt).map Scalar.number
          rw [Number.ofInt?, if_pos ⟨hlow, hhigh⟩, Int64.ofInt_toInt]
          rfl
      | uint =>
          have hlt : m.toInt.toNat < 2 ^ 64 := by omega
          rw [FieldType.ofInteger?, Number.ofNat?, if_pos hlt, Option.map_if]
          rfl
      | float => exact (Option.map_map _ _ _).symm
      | _ => rfl
  | uint m =>
      cases h
      cases hentry
      have hlt := m.toNat_lt
      cases type with
      | int => rfl
      | uint =>
          have hnonneg : (0 : Int) ≤ m.toNat := Int.natCast_nonneg _
          rw [FieldType.ofInteger?, if_pos hnonneg, Int.toNat_natCast, Number.ofNat?, if_pos hlt,
            UInt64.ofNat_toNat]
          rfl
      | float => exact (Option.map_map _ _ _).symm
      | _ => rfl
  | float x => cases h

/-- **The entry of a number stands for it in every kind that has it**, and for nothing else. -/
theorem scalar?_number (htype : type.isNumeric = true)
    (hentry : ofScalar? (.number number) = some entry) :
    (type.HasNumber number ∧ ∃ other, entry.scalar? ⟨type, nullable⟩ = some (.number other) ∧
        number.ConvertsTo type other) ∨
      ¬type.HasNumber number ∧ entry.scalar? ⟨type, nullable⟩ = none := by
  cases hinteger : number.integer? with
  | some n =>
      rw [scalar?_integer hinteger hentry]
      rcases FieldType.ofInteger?_spec htype hinteger with ⟨hhas, w, hw, hconverts⟩ | ⟨hnot, hnone⟩
      · exact .inl ⟨hhas, w, by rw [hw, Option.map_some], hconverts⟩
      · exact .inr ⟨hnot, by rw [hnone, Option.map_none]⟩
  | none =>
      -- a floating-point number is read as one only
      cases number with
      | float x =>
          obtain ⟨-, hentry⟩ := Option.ite_none_right_eq_some.mp hentry
          cases hentry
          cases type with
          | float => exact .inl ⟨.inl ⟨x, rfl⟩, .float x, rfl, trivial, rfl, fun _ => rfl⟩
          | int | uint =>
              refine .inr ⟨?_, rfl⟩
              rintro ⟨n, hn, -⟩
              cases hn
          | _ => cases htype
      | _ => cases hinteger

/-- A finite number has an entry. -/
theorem exists_entry_number {q : Rat} (h : number.rational? = some q) :
    ∃ entry, ofScalar? (.number number) = some entry ∧ entry.Survives := by
  cases number with
  | int n => exact ⟨.int n, rfl, survives_int n⟩
  | uint n => exact ⟨.uint n, rfl, survives_uint n⟩
  | float x =>
      have hfinite := Binary64.isFinite_iff.mpr ⟨q, h⟩
      exact ⟨.float x, if_pos hfinite, survives_float hfinite⟩

end Entry

namespace Cursor

/-- **A token never changes a number.** Every finite number has a token. A key of the same or another
kind of number takes the token just if its kind has the number: an integer in the range, or one that
is some floating-point number. It gives the very number then, and otherwise a mismatch of types. -/
theorem number_conversion {number : Number} {q : Rat} (hfinite : number.rational? = some q) :
    ∃ token, encode [.number number] = .ok token ∧
      ∀ (catalog : Catalog) (type : FieldType) (nullable : Bool), type.isNumeric = true →
        (type.HasNumber number → ∃ other,
          decode catalog token [⟨type, nullable⟩] = .ok [.number other] ∧
          Scalar.IsOfKind type (.number other) ∧ other.rational? = some q ∧
          (Scalar.IsOfKind type (.number number) → other = number)) ∧
        (¬type.HasNumber number → decode catalog token [⟨type, nullable⟩] =
          .error (.typeMismatch 0 (type.text catalog))) := by
  obtain ⟨entry, hentry, hsurvives⟩ := Entry.exists_entry_number hfinite
  have hentries : entriesFrom 0 [.number number] = .ok [entry] := by
    simp only [entriesFrom, hentry, Except.map]
  obtain ⟨token, hencode, hdecode⟩ :=
    exists_token_of_entries hentries (List.forall_mem_singleton.mpr hsurvives)
  refine ⟨token, hencode, fun catalog type nullable htype => ?_⟩
  rw [hdecode catalog [⟨type, nullable⟩] rfl]
  rcases @Entry.scalar?_number number entry type nullable htype hentry with
    ⟨hhas, other, hscalar, hkind, hrational, hsame⟩ | ⟨hnot, hnone⟩
  · refine ⟨fun _ => ⟨other, ?_, hkind, hrational.trans hfinite, hsame⟩, fun h => absurd hhas h⟩
    simp only [scalarsFrom, hscalar, Except.map]
  · refine ⟨fun h => absurd h hnot, fun _ => ?_⟩
    simp only [scalarsFrom, hnone]

/-- The greatest integer of all kinds. No floating-point number is it; the nearest one is the power of
    two behind it. -/
def greatest : Number := .uint 18446744073709551615

theorem number_conversion_greatest :
    greatest.rational? = some (18446744073709551615 : Int) ∧
    ∃ token, encode [.number greatest] = .ok token ∧
      decode ⟨[]⟩ token [⟨.uint, false⟩] = .ok [.number greatest] ∧
      decode ⟨[]⟩ token [⟨.int, true⟩] = .error (.typeMismatch 0 "int") ∧
      decode ⟨[]⟩ token [⟨.float, false⟩] = .error (.typeMismatch 0 "float") := by
  have hinteger : greatest.integer? = some 18446744073709551615 := by decide +kernel
  have hrational := Number.rational?_of_integer? hinteger
  have hint : ¬FieldType.int.HasNumber greatest := by
    rintro ⟨n, hn, -, hlt⟩
    cases hn
    exact absurd hlt (by decide)
  have hfloat : ¬FieldType.float.HasNumber greatest := by
    rintro (⟨x, hx⟩ | ⟨n, x, hn, hx⟩)
    · cases hx
    · cases hinteger.symm.trans hn
      obtain ⟨y, hy⟩ := Binary64.exists_exactOfInt? hx
      have hnone : Binary64.exactOfInt? 18446744073709551615 = none := by decide +kernel
      cases hnone.symm.trans hy
  obtain ⟨token, hencode, hdecode⟩ := number_conversion hrational
  have huint := (hdecode ⟨[]⟩ .uint false rfl).1 ⟨_, hinteger, by decide, by decide⟩
  obtain ⟨other, hother, -, -, hsame⟩ := huint
  rw [hsame trivial] at hother
  exact ⟨hrational, token, hencode, hother, (hdecode ⟨[]⟩ .int true rfl).2 hint,
    (hdecode ⟨[]⟩ .float false rfl).2 hfloat⟩

end Cursor
end RecordQuery
