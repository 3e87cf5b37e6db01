import Mathlib.Data.List.Forall2
import Mathlib.Data.List.ReduceOption
import RecordQuery.Declaration.Fields
import RecordQuery.Proofs.Declaration.Notes
import RecordQuery.Proofs.Text.Name

/-!
# `Proofs.Declaration.Fields` — the fields that a declaration makes

A member makes a field if the notes that are read declare a kind and do not leave it out. The field
is nullable and a list as its type has an `Option` and a `Vec` around the type of a single value. The
members of a record are gone through in their order, and the first error ends it.

## Contents
- `TypeForm.Shape`, `Wrapping.shape_ofType`: how a type is made from that of a single value.
- `Member.Outcome`, `Member.outcome`: **what becomes of a member**, in all cases.
- `mapM_eq_ok_iff`, `mapM_eq_error_iff`: one result for each entry of a list, or the first error.
- `Item.IsRecord`, `Item.fields_of_isRecord`, `Item.fields_of_not_isRecord`: the items that are gone
  through.
- `Item.forall₂_makes`: the fields of a record type are those that its members make.
-/

namespace RecordQuery.Declaration

/-! ## The type of a field -/

/-- The type is an application of the wrapper to one type. -/
def TypeForm.Applies (type : TypeForm) (wrapper : String) (inner : TypeForm) : Prop :=
  ∃ text, type = .named wrapper [.type inner] text

theorem TypeForm.argumentOf?_eq_some_iff {wrapper : String} {type inner : TypeForm} :
    type.argumentOf? wrapper = some inner ↔ type.Applies wrapper inner := by
  constructor
  · intro h
    unfold argumentOf? at h
    split at h
    · rename_i name argument text
      split at h
      · rename_i hname
        cases h
        exact ⟨text, by rw [hname]⟩
      · cases h
    · cases h
  · rintro ⟨text, rfl⟩
    exact if_pos rfl

theorem TypeForm.argumentOf?_eq_none_iff {wrapper : String} {type : TypeForm} :
    type.argumentOf? wrapper = none ↔ ∀ inner, ¬type.Applies wrapper inner := by
  simp only [Option.eq_none_iff_forall_ne_some, ne_eq, argumentOf?_eq_some_iff]

/-- How a type is made from the type of a single value: whether it is nullable, whether it is a list,
and that type. -/
inductive TypeForm.Shape : TypeForm → Bool → Bool → TypeForm → Prop
  | single {type : TypeForm} (not_option : ∀ inner, ¬type.Applies "Option" inner)
      (not_vec : ∀ element, ¬type.Applies "Vec" element) : Shape type false false type
  | optional {type inner : TypeForm} (option : type.Applies "Option" inner)
      (not_vec : ∀ element, ¬inner.Applies "Vec" element) : Shape type true false inner
  | list {type element : TypeForm} (not_option : ∀ inner, ¬type.Applies "Option" inner)
      (vec : type.Applies "Vec" element) : Shape type false true element
  | optionalList {type inner element : TypeForm} (option : type.Applies "Option" inner)
      (vec : inner.Applies "Vec" element) : Shape type true true element

theorem Wrapping.shape_ofType (type : TypeForm) :
    type.Shape (ofType type).nullable (ofType type).isList (ofType type).element := by
  unfold ofType
  cases hoption : type.argumentOf? "Option" with
  | some inner =>
      have hoption := TypeForm.argumentOf?_eq_some_iff.mp hoption
      dsimp only
      cases hvec : inner.argumentOf? "Vec" with
      | some element => exact .optionalList hoption (TypeForm.argumentOf?_eq_some_iff.mp hvec)
      | none => exact .optional hoption (TypeForm.argumentOf?_eq_none_iff.mp hvec)
  | none =>
      have hoption := TypeForm.argumentOf?_eq_none_iff.mp hoption
      dsimp only
      cases hvec : type.argumentOf? "Vec" with
      | some element => exact .list hoption (TypeForm.argumentOf?_eq_some_iff.mp hvec)
      | none => exact .single hoption (TypeForm.argumentOf?_eq_none_iff.mp hvec)

/-- A type is an application in one way only. -/
theorem TypeForm.Applies.unique {type inner other : TypeForm} {wrapper : String}
    (h : type.Applies wrapper inner) (h' : type.Applies wrapper other) : inner = other := by
  obtain ⟨_, rfl⟩ := h
  obtain ⟨_, heq⟩ := h'
  cases heq
  rfl

theorem TypeForm.Applies.wrapper_eq {type inner other : TypeForm} {wrapper wrapper' : String}
    (h : type.Applies wrapper inner) (h' : type.Applies wrapper' other) : wrapper = wrapper' := by
  obtain ⟨_, rfl⟩ := h
  obtain ⟨_, heq⟩ := h'
  cases heq
  rfl

/-- The type is an `Option`. -/
def TypeForm.IsOption (type : TypeForm) : Prop := ∃ inner, type.Applies "Option" inner

/-- The type is a `Vec`, or an `Option` around one. -/
def TypeForm.IsList (type : TypeForm) : Prop :=
  (∃ element, type.Applies "Vec" element) ∨
    ∃ inner element, type.Applies "Option" inner ∧ inner.Applies "Vec" element

theorem TypeForm.Shape.nullable_iff {type element : TypeForm} {nullable isList : Bool}
    (h : type.Shape nullable isList element) : nullable = true ↔ type.IsOption := by
  cases h with
  | single not_option _ => exact iff_of_false nofun fun ⟨inner, h⟩ => not_option inner h
  | list not_option _ => exact iff_of_false nofun fun ⟨inner, h⟩ => not_option inner h
  | optional option _ => exact iff_of_true rfl ⟨_, option⟩
  | optionalList option _ => exact iff_of_true rfl ⟨_, option⟩

theorem TypeForm.Shape.isList_iff {type element : TypeForm} {nullable isList : Bool}
    (h : type.Shape nullable isList element) : isList = true ↔ type.IsList := by
  cases h with
  | single not_option not_vec =>
      refine iff_of_false nofun ?_
      rintro (⟨element, h⟩ | ⟨inner, element, h, -⟩)
      · exact not_vec element h
      · exact not_option inner h
  | optional option not_vec =>
      refine iff_of_false nofun ?_
      rintro (⟨element, h⟩ | ⟨inner, element, h, hvec⟩)
      · exact absurd (option.wrapper_eq h) (by decide)
      · exact not_vec element (option.unique h ▸ hvec)
  | list _ vec => exact iff_of_true rfl (Or.inl ⟨_, vec⟩)
  | optionalList option vec => exact iff_of_true rfl (Or.inr ⟨_, _, option, vec⟩)

/-! ## What a member makes -/

/-- Notes that make a field: they declare a kind and do not leave it out. -/
def makesField (notes : List Note) : Bool := !(kindsOf notes).isEmpty && !notes.contains .skip

namespace Member

variable {member : Member}

/-- The name of the field by the notes: the last that they give, or its own. -/
def nameBy (member : Member) (notes : List Note) : String :=
  (renamesOf notes).getLast?.getD member.name

/-- The member makes the field by the notes. -/
structure Makes (member : Member) (notes : List Note) (field : DeclaredField) : Prop where
  makes : makesField notes = true
  kind : (kindsOf notes).getLast? = some field.kind
  name : field.name = member.nameBy notes
  constant : field.constant = Text.constantCase field.name
  shape : ∃ element, member.type.Shape field.nullable field.isList element ∧
    ¬element.IsOption ∧ field.element = element.text

/-- What becomes of a member: it is left out, makes a field, or is the reason why there is no
record type. -/
inductive Outcome (member : Member) : Except DeclarationError (Option DeclaredField) → Prop
  | unread {e : MarkError} (unread : member.readNotes? = none) : Outcome member (.error (.mark e))
  | leftOut {notes : List Note} (read : member.readNotes? = some notes)
      (out : makesField notes = false) : Outcome member (.ok none)
  | notAName {notes : List Note} (read : member.readNotes? = some notes)
      (makes : makesField notes = true)
      (misnamed : Text.isSpellable (member.nameBy notes).toList = false) :
      Outcome member (.error (.notAName (Text.constantCase (member.nameBy notes))))
  | optionalElements {notes : List Note} (read : member.readNotes? = some notes)
      (makes : makesField notes = true)
      (named : Text.isSpellable (member.nameBy notes).toList = true)
      {nullable isList : Bool} {element : TypeForm}
      (shape : member.type.Shape nullable isList element) (optional : element.IsOption) :
      Outcome member (.error .optionalElements)
  | field {notes : List Note} {field : DeclaredField} (read : member.readNotes? = some notes)
      (named : Text.isSpellable (member.nameBy notes).toList = true)
      (makes : member.Makes notes field) : Outcome member (.ok (some field))

theorem outcome (member : Member) : member.Outcome member.field := by
  have hread := member.toOption_ofTags
  unfold Member.field
  cases htags : FieldMark.ofTags member.tags with
  | error e =>
      rw [htags] at hread
      exact .unread (Option.map_eq_none_iff.mp hread.symm)
  | ok mark =>
      rw [htags] at hread
      obtain ⟨notes, hnotes, rfl⟩ := Option.map_eq_some_iff.mp hread.symm
      simp only [Except.mapError, bind, Except.bind]
      -- What is asked first decides: left out, no kind, no name, an `Option` inside.
      cases hskip : notes.contains .skip with
      | true => exact .leftOut hnotes (by rw [makesField, hskip, Bool.not_true, Bool.and_false])
      | false =>
          cases hkind : (kindsOf notes).getLast? with
          | none =>
              have hkinds := List.getLast?_eq_none_iff.mp hkind
              exact .leftOut hnotes (by rw [makesField, hkinds]; rfl)
          | some kind =>
              have hkinds : (kindsOf notes).isEmpty = false := by
                refine List.isEmpty_eq_false_iff.mpr fun hnil => ?_
                rw [hnil] at hkind
                cases hkind
              have hmakes : makesField notes = true := by rw [makesField, hkinds, hskip]; rfl
              have hshape := Wrapping.shape_ofType member.type
              have hnameBy : (renamesOf notes).getLast?.getD member.name = member.nameBy notes := rfl
              dsimp only
              rw [Text.isName_constantCase, hnameBy]
              cases hname : Text.isSpellable (member.nameBy notes).toList with
              | false => exact .notAName hnotes hmakes hname
              | true =>
                  cases hoption : (Wrapping.ofType member.type).element.argumentOf? "Option" with
                  | some inner =>
                      exact .optionalElements hnotes hmakes hname hshape
                        ⟨inner, TypeForm.argumentOf?_eq_some_iff.mp hoption⟩
                  | none =>
                      have hplain := TypeForm.argumentOf?_eq_none_iff.mp hoption
                      exact .field hnotes hname ⟨hmakes, hkind, rfl, rfl, _, hshape,
                        fun ⟨inner, h⟩ => hplain inner h, rfl⟩

end Member

/-! ## Members one after the other -/

section Lists

variable {ε α β : Type} {f : α → Except ε β} {xs : List α}

theorem mapM_eq_ok_iff {ys : List β} :
    xs.mapM f = .ok ys ↔ List.Forall₂ (fun x y => f x = .ok y) xs ys := by
  induction xs generalizing ys with
  | nil => cases ys <;> simp [pure, Except.pure]
  | cons x xs ih =>
      rw [List.mapM_cons]
      cases hx : f x with
      | error e => cases ys <;> simp [bind, Except.bind, hx]
      | ok y =>
          cases hxs : xs.mapM f with
          | error e => cases ys <;> simp [bind, Except.bind, hx, ← ih, hxs]
          | ok zs => cases ys <;> simp [bind, Except.bind, pure, Except.pure, hx, ← ih, hxs]

theorem exists_ok_of_mapM {ys : List β} (h : xs.mapM f = .ok ys) : ∀ x ∈ xs, ∃ y, f x = .ok y := by
  have hall := mapM_eq_ok_iff.mp h
  clear h
  induction hall with
  | nil => exact nofun
  | cons hx _ ih => exact List.forall_mem_cons.mpr ⟨⟨_, hx⟩, ih⟩

/-- The first error of a list ends it. -/
theorem mapM_eq_error_iff {e : ε} :
    xs.mapM f = .error e ↔ ∃ front x back, xs = front ++ x :: back ∧
      (∀ earlier ∈ front, ∃ y, f earlier = .ok y) ∧ f x = .error e := by
  induction xs with
  | nil => simp [pure, Except.pure]
  | cons x xs ih =>
      rw [List.mapM_cons]
      constructor
      · intro h
        cases hx : f x with
        | error e' =>
            rw [hx] at h
            cases h
            exact ⟨[], x, xs, rfl, nofun, hx⟩
        | ok y =>
            rw [hx] at h
            cases hxs : xs.mapM f with
            | ok ys =>
                rw [hxs] at h
                cases h
            | error e' =>
                rw [hxs] at h
                cases h
                obtain ⟨front, z, back, rfl, hfront, hz⟩ := ih.mp hxs
                exact ⟨x :: front, z, back, rfl, List.forall_mem_cons.mpr ⟨⟨y, hx⟩, hfront⟩, hz⟩
      · rintro ⟨front, z, back, heq, hfront, hz⟩
        cases front with
        | nil =>
            cases heq
            rw [hz]
            rfl
        | cons first front =>
            cases heq
            obtain ⟨⟨y, hy⟩, hfront⟩ := List.forall_mem_cons.mp hfront
            rw [hy, ih.mpr ⟨front, z, back, rfl, hfront, hz⟩]
            rfl

/-- If some members make something and the others nothing, what is made belongs to those some, in
their order. -/
theorem forall₂_filter_reduceOption {R : α → Option β → Prop} {S : α → β → Prop} {p : α → Bool}
    {results : List (Option β)} (h : List.Forall₂ R xs results)
    (hsome : ∀ x y, R x (some y) → p x = true ∧ S x y) (hnone : ∀ x, R x none → p x = false) :
    List.Forall₂ S (xs.filter p) results.reduceOption := by
  induction h with
  | nil => exact .nil
  | @cons x result xs results hx _ ih =>
      cases result with
      | none => rwa [List.filter_cons_of_neg (by simp [hnone x hx]), List.reduceOption_cons_of_none]
      | some y =>
          obtain ⟨hp, hy⟩ := hsome x y hx
          rw [List.filter_cons_of_pos hp, List.reduceOption_cons_of_some]
          exact .cons hy ih

end Lists

/-! ## Records -/

namespace Item

variable {item : Item}

/-- The members of a structure whose fields have names; none of any other item. -/
def members (item : Item) : List Member :=
  match item.body with
  | .fields members => members
  | _ => []

/-- A structure with named fields and without parameters. -/
def IsRecord (item : Item) : Prop := item.isGeneric = false ∧ item.body = .fields item.members

theorem fields_of_isRecord (h : item.IsRecord) :
    item.fields = (item.members.mapM Member.field).map List.reduceOption := by
  obtain ⟨hgeneric, hbody⟩ := h
  rw [fields, hgeneric, if_neg Bool.false_ne_true, hbody]
  dsimp only
  cases item.members.mapM Member.field <;> rfl

theorem fields_of_not_isRecord (h : ¬item.IsRecord) :
    ∃ e ∈ [DeclarationError.genericRecord, .unnamedFields, .notAStructure],
      item.fields = .error e := by
  obtain ⟨name, isGeneric, body⟩ := item
  cases isGeneric with
  | true => exact ⟨.genericRecord, by simp, rfl⟩
  | false =>
      cases body with
      | fields members => exact absurd ⟨rfl, rfl⟩ h
      | tuple _ => exact ⟨.unnamedFields, by simp, rfl⟩
      | unit => exact ⟨.unnamedFields, by simp, rfl⟩
      | variants _ => exact ⟨.notAStructure, by simp, rfl⟩
      | union _ => exact ⟨.notAStructure, by simp, rfl⟩

theorem isRecord_of_fields {fields : List DeclaredField} (h : item.fields = .ok fields) :
    item.IsRecord := by
  by_contra hrecord
  obtain ⟨e, -, he⟩ := fields_of_not_isRecord hrecord
  cases h.symm.trans he

/-- **The fields of a record type are those that its members make**, in their order. -/
theorem forall₂_makes {fields : List DeclaredField} (h : item.fields = .ok fields) :
    (∀ member ∈ item.members, ∃ notes, member.readNotes? = some notes) ∧
    List.Forall₂ (fun member field => ∃ notes, member.readNotes? = some notes ∧
        member.Makes notes field)
      (item.members.filter fun member => member.readNotes?.any makesField) fields := by
  rw [fields_of_isRecord (isRecord_of_fields h)] at h
  cases hresults : item.members.mapM Member.field with
  | error e =>
      rw [hresults] at h
      cases h
  | ok results =>
      rw [hresults] at h
      cases h
      refine ⟨fun member hmember => ?_,
        forall₂_filter_reduceOption (mapM_eq_ok_iff.mp hresults) ?_ ?_⟩
      · obtain ⟨result, hresult⟩ := exists_ok_of_mapM hresults member hmember
        have houtcome := member.outcome
        rw [hresult] at houtcome
        cases houtcome with
        | leftOut read _ => exact ⟨_, read⟩
        | field read _ _ => exact ⟨_, read⟩
      · intro member field hfield
        have houtcome := member.outcome
        rw [hfield] at houtcome
        cases houtcome with
        | field read _ makes => exact ⟨by rw [read]; exact makes.makes, _, read, makes⟩
      · intro member hfield
        have houtcome := member.outcome
        rw [hfield] at houtcome
        cases houtcome with
        | leftOut read out => rw [read]; exact out

end Item
end RecordQuery.Declaration
