import RecordQuery.Proofs.Declaration.Fields

/-!
# `Proofs.Declaration.Marks` — which marks a record type honours

A member may have any number of marks, and each may say any number of things. The fields of a record
type come of the first marks alone, so what they are like as a whole is known from all marks only
where no member has a second one, and where no mark says two things or nothing about the kind.

## Contents
- `Member.WellMarked`, `Member.HonouredBy`: marks that can all be honoured, and a field that does.
- `WellMarked.makesField_eq`, `Makes.honouredBy`: a well-marked member is honoured.
- `Item.fields_honour_marks`: **the fields that a declaration makes**, and what they honour.
- `Item.not_fields_honour_marks`: a second mark is passed over, and so is a mark without a kind.
-/

namespace RecordQuery.Declaration

namespace Member

/-- The field has a mark, and none of its marks leaves it out. -/
def isAnnotated (member : Member) : Bool :=
  !member.marks.isEmpty && !member.allNotes.contains .skip

/-- The marks of the field are one mark, which declares a kind unless it leaves the field out, and
does not say different things. -/
def WellMarked (member : Member) : Prop :=
  member.marks.length ≤ 1 ∧
  (member.isAnnotated = true → kindsOf member.allNotes ≠ []) ∧
  (∀ kind ∈ kindsOf member.allNotes, ∀ other ∈ kindsOf member.allNotes, kind = other) ∧
  ∀ name ∈ renamesOf member.allNotes, ∀ other ∈ renamesOf member.allNotes, name = other

instance : DecidablePred WellMarked := fun _ => inferInstanceAs (Decidable (_ ∧ _ ∧ _ ∧ _))

/-- The field is what all marks of the member ask for. -/
structure HonouredBy (member : Member) (field : DeclaredField) : Prop where
  kinds : ∀ kind, kind ∈ kindsOf member.allNotes ↔ kind = field.kind
  renames : ∀ name ∈ renamesOf member.allNotes, name = field.name
  unnamed : renamesOf member.allNotes = [] → field.name = member.name
  nullable : field.nullable = true ↔ member.type.IsOption
  isList : field.isList = true ↔ member.type.IsList

variable {member : Member} {notes : List Note}

/-- All notes are read if there is one mark at most. -/
theorem allNotes_of_readNotes (once : member.marks.length ≤ 1)
    (read : member.readNotes? = some notes) : member.allNotes = notes := by
  unfold readNotes? at read
  unfold allNotes
  generalize member.marks = marks at once read
  match marks with
  | [] =>
      cases read
      rfl
  | [mark] =>
      have hmark : mark.notes? = some notes := read
      rw [List.flatMap_singleton, hmark, Option.getD_some]

/-- **Of a well-marked member it is known from its marks whether it makes a field.** -/
theorem WellMarked.makesField_eq (well : member.WellMarked)
    (read : member.readNotes? = some notes) : makesField notes = member.isAnnotated := by
  obtain ⟨once, declared, -⟩ := well
  have hall := allNotes_of_readNotes once read
  rw [hall] at declared
  unfold makesField
  cases hannotated : member.isAnnotated with
  | true =>
      have hkinds : (kindsOf notes).isEmpty = false :=
        List.isEmpty_eq_false_iff.mpr (declared hannotated)
      rw [isAnnotated, hall, Bool.and_eq_true] at hannotated
      rw [hkinds, hannotated.2]
      rfl
  | false =>
      rw [isAnnotated, hall, Bool.and_eq_false_iff] at hannotated
      rcases hannotated with hnone | hskip
      · have hmarks : member.marks = [] := by simpa using hnone
        rw [readNotes?, hmarks] at read
        cases read
        rfl
      · rw [hskip, Bool.and_false]

/-- **What a well-marked member makes is what its marks ask for.** -/
theorem Makes.honouredBy {field : DeclaredField} (makes : member.Makes notes field)
    (well : member.WellMarked) (read : member.readNotes? = some notes) :
    member.HonouredBy field := by
  obtain ⟨once, -, hkinds, hnames⟩ := well
  rw [allNotes_of_readNotes once read] at hkinds hnames
  have hkind : field.kind ∈ kindsOf notes := List.mem_of_getLast? makes.kind
  obtain ⟨element, hshape, -⟩ := makes.shape
  constructor
  case kinds =>
    rw [allNotes_of_readNotes once read]
    intro kind
    constructor
    · intro h
      exact hkinds kind h field.kind hkind
    · rintro rfl
      exact hkind
  case renames =>
    rw [allNotes_of_readNotes once read]
    intro name h
    rw [makes.name, nameBy]
    cases hlast : (renamesOf notes).getLast? with
    | none =>
        rw [List.getLast?_eq_none_iff.mp hlast] at h
        cases h
    | some last => exact hnames name h last (List.mem_of_getLast? hlast)
  case unnamed =>
    rw [allNotes_of_readNotes once read]
    intro h
    rw [makes.name, nameBy, h]
    rfl
  case nullable => exact hshape.nullable_iff
  case isList => exact hshape.isList_iff

end Member

theorem ok_of_toOption {ε α : Type} {x : Except ε α} {a : α} (h : x.toOption = some a) :
    x = .ok a := by
  cases x with
  | error e => cases h
  | ok value =>
      cases h
      rfl

namespace Item

variable {item : Item} {fields : List DeclaredField}

/-- **A record type has the fields that its first marks ask for**, in the order of the members: those
whose first mark declares a kind and does not leave the field out, with the last kind and the last
name of that mark. If all members are well marked, these are all annotated fields, and every mark is
honoured. -/
theorem fields_honour_marks (accepted : item.fields = .ok fields) :
    item.IsRecord ∧
    (∀ member ∈ item.members, ∃ notes, member.readNotes? = some notes) ∧
    List.Forall₂ (fun member field => ∃ notes, member.readNotes? = some notes ∧
        member.Makes notes field)
      (item.members.filter fun member => member.readNotes?.any makesField) fields ∧
    ((∀ member ∈ item.members, member.WellMarked) →
      List.Forall₂ Member.HonouredBy (item.members.filter Member.isAnnotated) fields) := by
  obtain ⟨hread, hmade⟩ := forall₂_makes accepted
  refine ⟨isRecord_of_fields accepted, hread, hmade, fun well => ?_⟩
  have hannotated : (item.members.filter fun member => member.readNotes?.any makesField) =
      item.members.filter Member.isAnnotated := by
    refine List.filter_congr fun member hmember => ?_
    obtain ⟨notes, read⟩ := hread member hmember
    rw [read, Option.any_some, (well member hmember).makesField_eq read]
  rw [hannotated] at hmade
  have hwell : ∀ member ∈ item.members.filter Member.isAnnotated, member.WellMarked :=
    fun member hmember => well member (List.mem_of_mem_filter hmember)
  refine List.Forall₂.imp ?_ ((List.forall₂_and_left _ _).mpr ⟨hwell, hmade⟩)
  rintro member field ⟨hwell, notes, read, makes⟩
  exact makes.honouredBy hwell read

/-- A declaration with a member that is left out, and a nullable list under another name. -/
def shelf : String :=
  "struct Shelf \x7b
    #[field(Int, skip)] m: u8,
    #[field(Enum, rename = \"labels\")] tags: Option<Vec<Tag>>,
  \x7d"

/-- The fields of `shelf`. -/
def shelfFields : List DeclaredField := [⟨"LABELS", "labels", .enum, true, true, "Tag"⟩]

theorem fields_honour_marks_shelf :
    ∃ item, Item.read? shelf = some item ∧ item.fields = .ok shelfFields ∧
      (∀ member ∈ item.members, member.WellMarked) ∧
      List.Forall₂ Member.HonouredBy (item.members.filter Member.isAnnotated) shelfFields := by
  have hread : ((Item.read? shelf).map fun item =>
      (item.fields.toOption, decide (∀ member ∈ item.members, member.WellMarked))) =
      some (some shelfFields, true) := by
    decide +kernel
  obtain ⟨item, hitem, hfields⟩ := Option.map_eq_some_iff.mp hread
  obtain ⟨hfields, hwell⟩ := Prod.mk.injEq .. ▸ hfields
  have accepted : item.fields = .ok shelfFields := ok_of_toOption hfields
  have well : ∀ member ∈ item.members, member.WellMarked := of_decide_eq_true hwell
  exact ⟨item, hitem, accepted, well, (fields_honour_marks accepted).2.2.2 well⟩

/-- A field with a second mark, which leaves it out. -/
def hidden : String := "struct Account \x7b #[field(Int)] #[field(skip)] pin: i64 \x7d"

/-- A field with a mark that gives a name and no kind. -/
def unkinded : String := "struct Account \x7b #[field(rename = \"owner\")] name: String \x7d"

/-- **A second mark is not honoured**, and neither is a mark without a kind. -/
theorem not_fields_honour_marks :
    ((Item.read? hidden).map fun item =>
        (item.fields.toOption, (item.members.filter Member.isAnnotated).length)) =
      some (some [⟨"PIN", "pin", .int, false, false, "i64"⟩], 0) ∧
    ((Item.read? unkinded).map fun item =>
        (item.fields.toOption, (item.members.filter Member.isAnnotated).length)) =
      some (some [], 1) ∧
    ¬∀ text item fields, Item.read? text = some item → item.fields = .ok fields →
      List.Forall₂ Member.HonouredBy (item.members.filter Member.isAnnotated) fields := by
  have hhidden : ((Item.read? hidden).map fun item =>
      (item.fields.toOption, (item.members.filter Member.isAnnotated).length)) =
      some (some [⟨"PIN", "pin", .int, false, false, "i64"⟩], 0) := by
    decide +kernel
  refine ⟨hhidden, by decide +kernel, fun honoured => ?_⟩
  obtain ⟨item, hitem, hfields⟩ := Option.map_eq_some_iff.mp hhidden
  obtain ⟨hfields, hnone⟩ := Prod.mk.injEq .. ▸ hfields
  have hsame := (honoured hidden item _ hitem (ok_of_toOption hfields)).length_eq
  rw [hnone] at hsame
  cases hsame

end Item
end RecordQuery.Declaration
