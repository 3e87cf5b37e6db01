import RecordQuery.Proofs.Declaration.Fields

/-!
# `Proofs.Declaration.Stops` — declarations that get no answer

A record type is derived from an item, or there is an error that says why not; but for one error,
`notAName`, where the derivation comes to a halt. It does so at the first member in error, if that is
one for whose constant no name can be made.

## Contents
- `Item.stops`: the derivation ends without an answer.
- `Member.Misnamed`, `Member.field_eq_notAName_iff`: the members at which it does.
- `Member.misnamed_of_raw`, `Member.not_misnamed_of_isName`: keywords that are marked as names have
  no constant; all other names have one.
- `Item.stops_iff`: **the declarations that get no answer**; there are some
  (`Item.not_always_answered`).
-/

namespace RecordQuery.Declaration

/-- The error is no answer: it comes of a name that no constant can have. -/
def DeclarationError.stops : DeclarationError → Bool
  | .notAName _ => true
  | _ => false

/-- The derivation of a record type from the item ends without an answer. -/
def Item.stops (item : Item) : Bool :=
  match item.fields with
  | .ok _ => false
  | .error e => e.stops

namespace Member

variable {member : Member} {notes : List Note}

/-- The member makes a field, and its name makes none for a constant. -/
def Misnamed (member : Member) : Prop :=
  ∃ notes, member.readNotes? = some notes ∧ makesField notes = true ∧
    Text.isSpellable (member.nameBy notes).toList = false

/-- **The derivation stops at the misnamed members.** -/
theorem field_eq_notAName_iff :
    (∃ constant, member.field = .error (.notAName constant)) ↔ member.Misnamed := by
  have houtcome := member.outcome
  constructor
  · rintro ⟨constant, hfield⟩
    rw [hfield] at houtcome
    cases houtcome with
    | notAName read makes misnamed => exact ⟨_, read, makes, misnamed⟩
  · rintro ⟨notes, read, makes, misnamed⟩
    generalize member.field = result at houtcome
    -- In every other case the member is not read, makes nothing or has a name.
    cases houtcome with
    | unread hunread => cases hunread.symm.trans read
    | leftOut hread out =>
        cases hread.symm.trans read
        cases out.symm.trans makes
    | notAName _ _ _ => exact ⟨_, rfl⟩
    | optionalElements hread _ named _ _ =>
        cases hread.symm.trans read
        cases named.symm.trans misnamed
    | field hread named _ =>
        cases hread.symm.trans read
        cases named.symm.trans misnamed

/-- A keyword that is marked as a name makes no name of a constant. -/
theorem misnamed_of_raw {word : List Char} (read : member.readNotes? = some notes)
    (makes : makesField notes = true) (unnamed : renamesOf notes = [])
    (raw : member.name.toList = 'r' :: '#' :: word) : member.Misnamed := by
  refine ⟨notes, read, makes, ?_⟩
  have hname : member.nameBy notes = member.name := by rw [nameBy, unnamed]; rfl
  rw [hname, raw, Text.not_isSpellable_raw]

/-- Any other name makes one. -/
theorem not_misnamed_of_isName (read : member.readNotes? = some notes)
    (unnamed : renamesOf notes = []) (name : Text.isName member.name.toList = true) :
    ¬member.Misnamed := by
  rintro ⟨notes', read', -, misnamed⟩
  cases read.symm.trans read'
  have hname : member.nameBy notes = member.name := by rw [nameBy, unnamed]; rfl
  rw [hname, Text.isSpellable_of_isName name] at misnamed
  cases misnamed

end Member

namespace Item

variable {item : Item}

theorem stops_eq_true_iff :
    item.stops = true ↔ ∃ constant, item.fields = .error (.notAName constant) := by
  unfold stops
  cases item.fields with
  | ok fields => exact iff_of_false nofun nofun
  | error e =>
      cases e with
      | notAName constant => exact iff_of_true rfl ⟨constant, rfl⟩
      | _ => exact iff_of_false nofun nofun

/-- An item that is no record gets an answer. -/
theorem isRecord_of_stops (h : item.stops = true) : item.IsRecord := by
  by_contra hrecord
  obtain ⟨constant, hstop⟩ := stops_eq_true_iff.mp h
  obtain ⟨e, he, herror⟩ := fields_of_not_isRecord hrecord
  cases hstop.symm.trans herror
  simp at he

theorem fields_eq_error_iff (h : item.IsRecord) {e : DeclarationError} :
    item.fields = .error e ↔ item.members.mapM Member.field = .error e := by
  rw [fields_of_isRecord h]
  cases item.members.mapM Member.field with
  | ok fields => exact iff_of_false nofun nofun
  | error e' => simp only [Except.map, Except.error.injEq]

/-- The derivation stops at the first member in error, if at all. -/
theorem stops_iff_misnamed :
    item.stops = true ↔ item.IsRecord ∧ ∃ front member back,
      item.members = front ++ member :: back ∧
        (∀ earlier ∈ front, ∃ result, earlier.field = .ok result) ∧ member.Misnamed := by
  constructor
  · intro h
    have hrecord := isRecord_of_stops h
    obtain ⟨constant, herror⟩ := stops_eq_true_iff.mp h
    obtain ⟨front, member, back, hmembers, hfront, hmember⟩ :=
      mapM_eq_error_iff.mp ((fields_eq_error_iff hrecord).mp herror)
    exact ⟨hrecord, front, member, back, hmembers, hfront,
      Member.field_eq_notAName_iff.mp ⟨constant, hmember⟩⟩
  · rintro ⟨hrecord, front, member, back, hmembers, hfront, hmisnamed⟩
    obtain ⟨constant, hmember⟩ := Member.field_eq_notAName_iff.mpr hmisnamed
    refine stops_eq_true_iff.mpr ⟨constant, (fields_eq_error_iff hrecord).mpr ?_⟩
    exact mapM_eq_error_iff.mpr ⟨front, member, back, hmembers, hfront, hmember⟩

theorem exists_misnamed_of_stops (h : item.stops = true) :
    ∃ member ∈ item.members, member.Misnamed := by
  obtain ⟨-, front, member, back, hmembers, -, hmisnamed⟩ := stops_iff_misnamed.mp h
  rw [hmembers]
  exact ⟨member, List.mem_append_right front List.mem_cons_self, hmisnamed⟩

/-- **A declaration gets no answer if it is of a record and its first member in error is misnamed**:
the member makes a field, and its name, be it its own or a given one, is not that of an identifier
but for hyphens. Without such members there is a list of fields, or an error that says why not. -/
theorem stops_iff (item : Item) :
    (item.stops = true ↔ item.IsRecord ∧ ∃ front member back,
      item.members = front ++ member :: back ∧
        (∀ earlier ∈ front, ∃ result, earlier.field = .ok result) ∧ member.Misnamed) ∧
    ((∀ member ∈ item.members, ¬member.Misnamed) →
      (∃ fields, item.fields = .ok fields) ∨ ∃ e, item.fields = .error e ∧ e.stops = false) := by
  refine ⟨stops_iff_misnamed, fun hnone => ?_⟩
  have hanswered : item.stops = false := by
    refine Bool.eq_false_iff.mpr fun h => ?_
    obtain ⟨member, hmember, hmisnamed⟩ := exists_misnamed_of_stops h
    exact hnone member hmember hmisnamed
  rw [stops] at hanswered
  cases hfields : item.fields with
  | ok fields => exact Or.inl ⟨fields, rfl⟩
  | error e =>
      rw [hfields] at hanswered
      exact Or.inr ⟨e, rfl, hanswered⟩

/-- A keyword as the name of a field. -/
def keyworded : String := "struct Lot \x7b #[field(Int)] r#type: i64 \x7d"

/-- A given name of two words. -/
def spaced : String := "struct Lot \x7b #[field(Int, rename = \"unit price\")] p: i64 \x7d"

/-- **Some declarations get no answer.** -/
theorem not_always_answered :
    (Item.read? keyworded).map Item.stops = some true ∧
    (Item.read? spaced).map Item.stops = some true ∧
    ¬∀ text item, Item.read? text = some item → item.stops = false := by
  have hkeyworded : (Item.read? keyworded).map Item.stops = some true := by decide +kernel
  refine ⟨hkeyworded, by decide +kernel, fun answered => ?_⟩
  obtain ⟨item, hitem, hstops⟩ := Option.map_eq_some_iff.mp hkeyworded
  cases (answered keyworded item hitem).symm.trans hstops

end Item
end RecordQuery.Declaration
