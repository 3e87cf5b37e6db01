import RecordQuery.Declaration.FieldMark

/-!
# `Proofs.Declaration.Notes` — what the marks of a field say

A mark is a list of notes: each declares a kind, gives a name or leaves the field out. Notes are
added one after the other, so that of two kinds and of two names the later one counts.

## Contents
- `Note`, `Tag.note?`, `Tag.notes?`: the notes of a mark.
- `FieldMark.toOption_add`, `FieldMark.foldl_withNote`: one note, and all of them.
- `Member.readNotes?`, `Member.toOption_ofTags`: **the first mark of a field is read**, and no
  other.
-/

namespace RecordQuery.Declaration

/-- What an item of a mark says about the field. -/
inductive Note where
  | kind (value : FieldKind)
  | rename (name : String)
  /-- The field is left out. -/
  | skip
deriving DecidableEq

/-- The kinds that notes declare. -/
def kindsOf (notes : List Note) : List FieldKind :=
  notes.filterMap fun | .kind value => some value | _ => none

/-- The names that notes give. -/
def renamesOf (notes : List Note) : List String :=
  notes.filterMap fun | .rename name => some name | _ => none

namespace Tag

/-- Whether the tag marks a field. -/
def isMark (tag : Tag) : Bool := tag.name? == some "field"

/-- What the item of a mark says, if that is known. -/
def note? (item : Tag) : Option Note :=
  match item.body, item.name? with
  | .bare, some name =>
    if name = "skip" then some .skip else (FieldKind.ofName? name).map .kind
  | .value (some text), some name =>
    if name = "rename" then some (.rename text)
    else if name = "ty" then (FieldKind.ofName? text).map .kind
    else none
  | _, _ => none

/-- The notes of a mark, if it is a list of items that are all known. -/
def notes? (tag : Tag) : Option (List Note) :=
  match tag.body with
  | .list content => (FieldMark.items? content).bind fun items => items.mapM note?
  | _ => none

end Tag

namespace FieldMark

/-- The mark with one more note. -/
def withNote (mark : FieldMark) : Note → FieldMark
  | .kind value => { mark with kind := some value }
  | .rename name => { mark with rename := some name }
  | .skip => { mark with skip := true }

theorem toOption_withKind (mark : FieldMark) (name : String) :
    (mark.withKind name).toOption = ((FieldKind.ofName? name).map .kind).map mark.withNote := by
  unfold withKind
  cases FieldKind.ofName? name <;> rfl

/-- **An item that is added is a note**, and any other is an error. -/
theorem toOption_add (mark : FieldMark) (item : Tag) :
    (mark.add item).toOption = item.note?.map mark.withNote := by
  unfold add Tag.note?
  generalize item.body = body, item.name? = name
  cases body with
  | list content => rfl
  | bare =>
      cases name with
      | none => rfl
      | some name =>
          by_cases hskip : name = "skip"
          · subst hskip
            rfl
          · simp only [hskip, if_false]
            exact toOption_withKind mark name
  | value text =>
      cases name with
      | none => cases text <;> rfl
      | some name =>
          by_cases hrename : name = "rename"
          · subst hrename
            cases text <;> rfl
          · by_cases hty : name = "ty"
            · subst hty
              cases text with
              | none => rfl
              | some text => exact toOption_withKind mark text
            · cases text <;> simp [hrename, hty, Except.toOption]

theorem toOption_bind {ε α β : Type} (x : Except ε α) (f : α → Except ε β) :
    (x >>= f).toOption = x.toOption.bind fun a => (f a).toOption := by
  cases x <;> rfl

/-- Items are added one after the other, and all of them have to be notes. -/
theorem toOption_foldlM_add (mark : FieldMark) (items : List Tag) :
    (items.foldlM add mark).toOption =
      (items.mapM Tag.note?).map fun notes => notes.foldl withNote mark := by
  induction items generalizing mark with
  | nil => rfl
  | cons item items ih =>
      rw [List.foldlM_cons, toOption_bind, toOption_add, List.mapM_cons]
      cases item.note? with
      | none => rfl
      | some note =>
          simp only [Option.map_some, Option.bind_some, ih, bind, pure]
          cases items.mapM Tag.note? <;> rfl

/-- **Of the kinds and of the names that notes give the last counts**, and any one of them leaves
the field out. -/
theorem foldl_withNote (mark : FieldMark) (notes : List Note) :
    notes.foldl withNote mark =
      ⟨(kindsOf notes).getLast?.or mark.kind, mark.skip || notes.contains .skip,
        (renamesOf notes).getLast?.or mark.rename⟩ := by
  induction notes generalizing mark with
  | nil => simp [kindsOf, renamesOf]
  | cons note notes ih =>
      rw [List.foldl_cons, ih]
      cases note <;> simp [withNote, kindsOf, renamesOf, List.getLast?_cons]

end FieldMark

/-! ## The marks of a field -/

namespace Member

/-- The marks of the field, in their order. -/
def marks (member : Member) : List Tag := member.tags.filter Tag.isMark

/-- The notes of all marks of the field that can be read. -/
def allNotes (member : Member) : List Note := member.marks.flatMap fun mark => mark.notes?.getD []

/-- The notes of the first mark of the field, if they are known; none if it has no mark. -/
def readNotes? (member : Member) : Option (List Note) :=
  match member.marks with
  | [] => some []
  | mark :: _ => mark.notes?

/-- **The first mark of a field is read, and no other.** -/
theorem toOption_ofTags (member : Member) :
    (FieldMark.ofTags member.tags).toOption =
      member.readNotes?.map fun notes =>
        ⟨(kindsOf notes).getLast?, notes.contains .skip, (renamesOf notes).getLast?⟩ := by
  have hfirst : member.marks.head? = member.tags.find? Tag.isMark := List.head?_filter
  unfold FieldMark.ofTags readNotes?
  rw [show (fun tag : Tag => tag.name? == some "field") = Tag.isMark from rfl, ← hfirst]
  cases member.marks with
  | nil => rfl
  | cons mark marks =>
      obtain ⟨path, body⟩ := mark
      cases body with
      | list content =>
          simp only [List.head?_cons, Tag.notes?]
          cases FieldMark.items? content with
          | none => rfl
          | some items =>
              simp only [FieldMark.toOption_foldlM_add, FieldMark.foldl_withNote, Option.bind_some,
                Option.or_none, Bool.false_or]
      | _ => rfl

end Member
end RecordQuery.Declaration
