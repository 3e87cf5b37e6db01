import RecordQuery.Proofs.Cursor.RoundTrip
import RecordQuery.Proofs.Ordering.Seek

/-!
# `Proofs.Cursor.Untrusted` — a token from anywhere gives a tuple of the key types or an error

Whoever brings a token back may have made it up: any text, any document, any values. An entry is
**sound** if what it holds could be written (`Entry.IsSound`); the reader makes no others
(`ofPayload?_sound`), and a key type takes a sound entry as a value that it holds (`holds_scalar?`).

## Contents
- `Entry.IsSound`, `ofTagged?_sound`, `ofJson?_sound`: entries that are read.
- `KeyType.IsDistinct`, `holds_scalar?`: entries as values of a key type.
- `tuple_decode`: what a token gives is a tuple of the key types.
- `decode_law`: and such a tuple is all that the following steps need.
-/

namespace RecordQuery

/-- A type with distinct variants, if it has any. -/
def KeyType.IsDistinct (key : KeyType) : Prop :=
  ∀ variants, key.type = .enum variants → variants.Nodup

theorem KeyType.Tuple.length_eq {keys : List KeyType} {values : List Scalar}
    (h : KeyType.Tuple keys values) : values.length = keys.length := by
  induction h with
  | nil => rfl
  | cons _ _ ih => rw [List.length_cons, List.length_cons, ih]

theorem Binary64.isFinite_of_exactOfInt? {n : Int} {x : Binary64}
    (h : Binary64.exactOfInt? n = some x) : x.isFinite = true := by
  rw [Binary64.exactOfInt?] at h
  split at h
  · rename_i hexact
    cases h
    unfold Binary64.exactInt? at hexact
    split at hexact
    · cases hexact
    · rename_i rank heq
      split at hexact
      · cases hexact
      · rename_i hrank
        rw [heq, Binary64.isFinite, decide_eq_true_iff]
        omega
  · cases h

namespace Entry

/-- What the entry holds could be written: a number is finite and a point in time representable. -/
def IsSound : Entry → Prop
  | float x => x.isFinite = true
  | time t => t.IsRepresentable
  | _ => True

/-! ## Reading -/

/-- **What a tag and a content stand for is sound.** Only numbers and points in time have anything
    to be checked. -/
theorem ofTagged?_sound {tag : String} {content : Json} {entry : Entry}
    (h : ofTagged? tag content = some entry) : entry.IsSound := by
  unfold ofTagged? at h
  split at h
  case h_1 | h_2 =>
    cases h
    trivial
  case h_3 | h_4 =>
    obtain ⟨n, -, h⟩ := Option.bind_eq_some_iff.mp h
    split at h
    · cases h
      trivial
    · cases h
  case h_5 =>
    simp only at h
    split at h
    · rename_i hfinite
      cases h
      exact hfinite
    · cases h
  case h_6 | h_9 =>
    obtain ⟨s, -, rfl⟩ := Option.map_eq_some_iff.mp h
    trivial
  case h_7 =>
    obtain ⟨s, -, h⟩ := Option.bind_eq_some_iff.mp h
    obtain ⟨t, ht, rfl⟩ := Option.map_eq_some_iff.mp h
    exact Timestamp.relaxed?_isRepresentable ht
  case h_8 =>
    obtain ⟨s, -, h⟩ := Option.bind_eq_some_iff.mp h
    obtain ⟨u, -, rfl⟩ := Option.map_eq_some_iff.mp h
    trivial
  case h_10 => cases h

theorem ofJson?_sound {document : Json} {entry : Entry} (h : ofJson? document = some entry) :
    entry.IsSound := by
  unfold ofJson? at h
  split at h
  · simp only [bind, Option.bind_eq_some_iff] at h
    obtain ⟨⟨tag?, content?⟩, -, tag, -, name, -, h⟩ := h
    simp only at h
    split at h
    · exact ofTagged?_sound h
    · -- only null may do without a content
      split at h
      · cases h
        trivial
      · cases h
  · obtain ⟨name, -, h⟩ := Option.bind_eq_some_iff.mp h
    exact ofTagged?_sound h
  · cases h

theorem mapM_ofJson?_sound {documents : List Json} {entries : List Entry}
    (h : documents.mapM ofJson? = some entries) : ∀ e ∈ entries, e.IsSound := by
  induction documents generalizing entries with
  | nil =>
      cases h
      exact fun e he => absurd he List.not_mem_nil
  | cons document documents ih =>
      simp only [List.mapM_cons, bind, Option.bind_eq_some_iff] at h
      obtain ⟨entry, hentry, rest, hrest, h⟩ := h
      cases h
      intro e he
      rcases List.mem_cons.mp he with rfl | he
      · exact ofJson?_sound hentry
      · exact ih hrest e he

/-- **All entries of a token are sound**, whatever its bytes are. -/
theorem ofPayload?_sound {bytes : List UInt8} {entries : List Entry}
    (h : Cursor.ofPayload? bytes = some entries) : ∀ e ∈ entries, e.IsSound := by
  unfold Cursor.ofPayload? at h
  split at h
  · exact mapM_ofJson?_sound h
  · cases h

/-! ## Values of a key type -/

/-- **A sound entry stands for a value that the key type holds**, if it stands for any. -/
theorem holds_scalar? {key : KeyType} {entry : Entry} {s : Scalar} (hsound : entry.IsSound)
    (hdistinct : key.IsDistinct) (h : entry.scalar? key = some s) : key.Holds s := by
  obtain ⟨type, nullable⟩ := key
  cases entry with
  | null =>
      obtain ⟨hnullable, h⟩ := Option.ite_none_right_eq_some.mp h
      cases h
      exact Or.inl ⟨hnullable, rfl⟩
  | bool b =>
      obtain ⟨htype, h⟩ := Option.ite_none_right_eq_some.mp h
      cases htype
      cases h
      exact Or.inr trivial
  | text text =>
      obtain ⟨htype, h⟩ := Option.ite_none_right_eq_some.mp h
      cases htype
      cases h
      exact Or.inr trivial
  | time t =>
      obtain ⟨htype, h⟩ := Option.ite_none_right_eq_some.mp h
      cases htype
      cases h
      exact Or.inr hsound
  | uuid u =>
      obtain ⟨htype, h⟩ := Option.ite_none_right_eq_some.mp h
      cases htype
      cases h
      exact Or.inr trivial
  | float x =>
      obtain ⟨htype, h⟩ := Option.ite_none_right_eq_some.mp h
      cases htype
      cases h
      exact Or.inr hsound
  | enum name =>
      cases type with
      | enum variants =>
          obtain ⟨m, hm, rfl⟩ := Option.map_eq_some_iff.mp h
          exact Or.inr ⟨hdistinct variants rfl, Member.getElem?_of_find? hm⟩
      | _ => cases h
  | int n =>
      cases type with
      | int =>
          cases h
          exact Or.inr trivial
      | uint =>
          obtain ⟨-, h⟩ := Option.ite_none_right_eq_some.mp h
          cases h
          exact Or.inr trivial
      | float =>
          obtain ⟨x, hx, rfl⟩ := Option.map_eq_some_iff.mp h
          exact Or.inr (Binary64.isFinite_of_exactOfInt? hx)
      | _ => cases h
  | uint n =>
      cases type with
      | int =>
          simp only [scalar?, Number.ofInt?, Option.map_eq_some_iff,
            Option.ite_none_right_eq_some] at h
          obtain ⟨m, ⟨-, hm⟩, rfl⟩ := h
          cases hm
          exact Or.inr trivial
      | uint =>
          cases h
          exact Or.inr trivial
      | float =>
          obtain ⟨x, hx, rfl⟩ := Option.map_eq_some_iff.mp h
          exact Or.inr (Binary64.isFinite_of_exactOfInt? hx)
      | _ => cases h

end Entry

namespace Cursor

/-! ## Tokens -/

theorem tuple_scalarsFrom {catalog : Catalog} {index : Nat} {entries : List Entry}
    {keys : List KeyType} {values : List Scalar} (hsound : ∀ e ∈ entries, e.IsSound)
    (hdistinct : ∀ key ∈ keys, key.IsDistinct) (hlength : entries.length = keys.length)
    (h : scalarsFrom catalog index entries keys = .ok values) : KeyType.Tuple keys values := by
  induction entries generalizing index keys values with
  | nil =>
      cases keys with
      | nil =>
          cases h
          exact .nil
      | cons key keys => cases hlength
  | cons entry entries ih =>
      cases keys with
      | nil => cases hlength
      | cons key keys =>
          rw [scalarsFrom] at h
          split at h
          · cases h
          · rename_i s hs
            cases hrest : scalarsFrom catalog (index + 1) entries keys with
            | error e =>
                rw [hrest] at h
                cases h
            | ok rest =>
                rw [hrest] at h
                cases h
                exact .cons
                  (Entry.holds_scalar? (hsound entry List.mem_cons_self)
                    (hdistinct key List.mem_cons_self) hs)
                  (ih (fun e he => hsound e (List.mem_cons_of_mem _ he))
                    (fun key hkey => hdistinct key (List.mem_cons_of_mem _ hkey))
                    (Nat.succ.inj hlength) hrest)

/-- **What a token gives is a tuple of the key types.** -/
theorem tuple_decode {catalog : Catalog} {token : String} {keys : List KeyType}
    {values : List Scalar} (hdistinct : ∀ key ∈ keys, key.IsDistinct)
    (h : decode catalog token keys = .ok values) : KeyType.Tuple keys values := by
  unfold decode at h
  split at h
  · cases h
  · split at h
    · cases h
    · rename_i entries hentries
      split at h
      · rename_i hlength
        exact tuple_scalarsFrom (Entry.ofPayload?_sound hentries) hdistinct hlength h
      · cases h

/-- **The law of tokens from anywhere.** Whatever a token is, it gives an error or a tuple of the key
    types. Such a tuple has a token of its own, from which it is read again, and both seeks of every
    ordering with these key types can be built from it. No tuple of the key types is left out. -/
theorem decode_law {catalog : Catalog} {keys : List KeyType}
    (hdistinct : ∀ key ∈ keys, key.IsDistinct) :
    (∀ token, (∃ e, decode catalog token keys = .error e) ∨
      ∃ values, decode catalog token keys = .ok values ∧
        values.length = keys.length ∧ KeyType.Tuple keys values ∧
        (∃ again, encode values = .ok again ∧ decode catalog again keys = .ok values) ∧
        ∀ order : SortOrder, order.keyTypes = keys → ∀ parameter, ∃ forward backward,
          Seek.predicate order values parameter = .ok forward ∧
          Seek.predicate order.reversed values parameter = .ok backward) ∧
    ∀ values, KeyType.Tuple keys values → ∃ token, decode catalog token keys = .ok values := by
  refine ⟨fun token => ?_, fun values htuple => ?_⟩
  · cases hdecode : decode catalog token keys with
    | error e => exact Or.inl ⟨e, rfl⟩
    | ok values =>
        have htuple := tuple_decode hdistinct hdecode
        refine Or.inr ⟨values, rfl, htuple.length_eq, htuple, exists_token htuple catalog, ?_⟩
        rintro order rfl parameter
        obtain ⟨forward, hforward⟩ := Seek.exists_predicate parameter htuple.takes
        obtain ⟨backward, hbackward⟩ := Seek.exists_predicate parameter htuple.takes.reversed
        exact ⟨forward, backward, hforward, hbackward⟩
  · obtain ⟨token, -, hdecode⟩ := exists_token htuple catalog
    exact ⟨token, hdecode⟩

/-- By state from the last one, those without a state last, and then by number. -/
def byState : SortOrder :=
  [⟨⟨[], ⟨"state", .enum ["new", "old"], true⟩⟩, .desc⟩, ⟨⟨[], ⟨"id", .int, false⟩⟩, .asc⟩]

theorem byState_isDistinct : ∀ key ∈ byState.keyTypes, key.IsDistinct := by
  intro key hkey variants htype
  rcases List.mem_cons.mp hkey with rfl | hkey
  · cases htype
    decide
  · cases List.mem_singleton.mp hkey
    cases htype

theorem decode_law_old : (∀ key ∈ byState.keyTypes, key.IsDistinct) ∧
    ∃ token again backward,
      decode ⟨[]⟩ token byState.keyTypes = .ok [.enum ⟨"old", 1⟩, .number (.int 5)] ∧
      encode [.enum ⟨"old", 1⟩, .number (.int 5)] = .ok again ∧
      decode ⟨[]⟩ again byState.keyTypes = .ok [.enum ⟨"old", 1⟩, .number (.int 5)] ∧
      Seek.predicate byState.reversed [.enum ⟨"old", 1⟩, .number (.int 5)] true = .ok backward := by
  refine ⟨byState_isDistinct, ?_⟩
  obtain ⟨hsafe, hall⟩ := @decode_law ⟨[]⟩ byState.keyTypes byState_isDistinct
  obtain ⟨token, htoken⟩ := hall [.enum ⟨"old", 1⟩, .number (.int 5)]
    (.cons (Or.inr ⟨by decide, rfl⟩) (.cons (Or.inr trivial) .nil))
  obtain ⟨e, he⟩ | ⟨values, hvalues, -, -, ⟨again, hagain, hdecode⟩, hseek⟩ := hsafe token
  · cases htoken.symm.trans he
  · cases htoken.symm.trans hvalues
    obtain ⟨-, backward, -, hbackward⟩ := hseek byState rfl true
    exact ⟨token, again, backward, htoken, hagain, hdecode, hbackward⟩

end Cursor
end RecordQuery
