import RecordQuery.Cursor.Token
import RecordQuery.Proofs.Cursor.Base64Url
import RecordQuery.Proofs.Json.FloatText
import RecordQuery.Proofs.Ordering.ExactTuple
import RecordQuery.Proofs.Text.Uuid

/-!
# `Proofs.Cursor.RoundTrip` — a token is read as the values it was made of

## Contents
- `Entry.Survives`: the content of an entry is read as a document that stands for the entry.
  The entries of every type do (`survives_null` … `survives_uuid`); what is written between quotes
  by `survives_quoted`.
- `readValue_json`, `readItems_entries`: entries that survive are read from their objects, and from
  the array of a token.
- `ofPayload?_payload`: the bytes of a token give its entries.
- `exists_token`, `round_trip`: a tuple of the key types is read from its token.
-/

namespace RecordQuery

open Json

namespace Entry

/-- The content of the entry, up to the end of its object, is read as a document that stands for the
    entry. -/
def Survives (entry : Entry) : Prop :=
  ∀ content, entry.content? = some content → ∀ fuel rest,
    ∃ doc, readValue (fuel + 1) (content.map some ++ some '\x7d' :: rest) =
        some (doc, some '\x7d' :: rest) ∧
      ofTagged? (String.ofList entry.tag) doc = some entry

/-! ## Contents -/

theorem readValue_quoted (fuel : Nat) (cs : List Char) (rest : List Symbol) :
    ∃ pieces, readValue (fuel + 1) ((quoted cs).map some ++ rest) = some (.string pieces, rest) ∧
      Json.text? pieces = some (String.ofList cs) := by
  obtain ⟨pieces, hread, hchars⟩ := readString_quoted cs rest
  refine ⟨pieces, ?_, by rw [Json.text?, hchars]; rfl⟩
  simp (disch := decide) only [quoted, List.cons_append, List.map_cons, readValue,
    skipSpace_of_not_isSpace, hread, Option.map]

/-- A number is a document. -/
theorem readValue_of_readNumber {s rest : List Symbol} {numeral : Numeral}
    (h : readNumber s = some (numeral, rest)) (fuel : Nat) :
    readValue (fuel + 1) s = some (.number numeral, rest) := by
  obtain ⟨c, cs, rfl, hc⟩ := exists_first_of_readNumber h
  have hspace : isSpace c = false := by
    rcases hc with hc | rfl
    · exact isSpace_of_isDigit hc
    · rfl
  unfold readValue
  rw [skipSpace_of_not_isSpace hspace]
  -- only the last case of the reader goes with such a character
  split
  all_goals first
    | rw [h]; rfl
    | (rename_i heq
       cases heq <;> exact absurd hc (by decide))

theorem survives_null : Survives null := by
  intro content h
  cases h

theorem survives_bool (b : Bool) : Survives (bool b) := by
  intro content h fuel rest
  cases h
  cases b
  · exact ⟨.boolean false, rfl, rfl⟩
  · exact ⟨.boolean true, rfl, rfl⟩

theorem integer?_int (n : Int) :
    Numeral.integer? ⟨⟨decide (n < 0), n.natAbs, 0⟩, true⟩ = some n := by
  unfold Numeral.integer?
  by_cases hn : n < 0
  · have hne : n.natAbs ≠ 0 := by omega
    simp only [hn, decide_true, Bool.not_true, Bool.false_or, Bool.true_and, beq_iff_eq, hne,
      if_false, if_true]
    congr 1
    omega
  · simp only [hn, decide_false, Bool.not_true, Bool.false_or, Bool.false_and, Bool.false_eq_true,
      if_false]
    congr 1
    omega

theorem survives_int (n : Int64) : Survives (int n) := by
  intro content h fuel rest
  cases h
  refine ⟨_, readValue_of_readNumber (readNumber_int n.toInt rest) fuel, ?_⟩
  show (Numeral.integer? _).bind _ = _
  rw [integer?_int, Option.bind_some, if_pos ⟨n.le_toInt, n.toInt_lt⟩, Int64.ofInt_toInt]

theorem survives_uint (n : UInt64) : Survives (uint n) := by
  intro content h fuel rest
  cases h
  refine ⟨_, readValue_of_readNumber (readNumber_int n.toNat rest) fuel, ?_⟩
  have hlt := n.toNat_lt
  have htag : String.ofList (uint n).tag = "uint" := rfl
  rw [htag, ofTagged?, integer?_int, Option.bind_some, if_pos ⟨by omega, by omega⟩,
    Int.toNat_natCast, UInt64.ofNat_toNat]

theorem survives_float {x : Binary64} (h : x.isFinite = true) : Survives (float x) := by
  intro content hcontent fuel rest
  cases hcontent
  obtain ⟨numeral, hread, hvalue⟩ := readNumber_text h rest
  refine ⟨_, readValue_of_readNumber hread fuel, ?_⟩
  have htag : String.ofList (float x).tag = "float" := rfl
  simp only [htag, ofTagged?, hvalue, h, if_true]

/-- A content between quotes is read as a string that stands for its text. -/
theorem survives_quoted {entry : Entry} {s : String} (hquoted : entry.content? = some (quoted s.toList))
    (htagged : ∀ pieces, Json.text? pieces = some s →
      ofTagged? (String.ofList entry.tag) (.string pieces) = some entry) : entry.Survives := by
  intro content hcontent fuel rest
  rw [hquoted] at hcontent
  cases hcontent
  obtain ⟨pieces, hread, htext⟩ := readValue_quoted fuel s.toList (some '\x7d' :: rest)
  rw [String.ofList_toList] at htext
  exact ⟨.string pieces, hread, htagged pieces htext⟩

theorem survives_text (s : String) : Survives (text s) := by
  apply survives_quoted rfl
  intro pieces htext
  show (jsonText? (.string pieces)).map text = _
  rw [jsonText?, htext]
  rfl

theorem survives_enum (name : String) : Survives (enum name) := by
  apply survives_quoted rfl
  intro pieces htext
  show (jsonText? (.string pieces)).map enum = _
  rw [jsonText?, htext]
  rfl

theorem survives_time {t : Timestamp} (h : t.IsRepresentable) : Survives (time t) := by
  apply survives_quoted rfl
  intro pieces htext
  show ((Json.text? pieces).bind _) = _
  rw [htext, Option.bind_some, Timestamp.relaxed?_zuluText h]
  rfl

theorem survives_uuid (u : Uuid) : Survives (uuid u) := by
  apply survives_quoted rfl
  intro pieces htext
  show ((jsonText? (.string pieces)).bind fun s => (Uuid.read? s.toList).map uuid) = _
  rw [jsonText?, htext, Option.bind_some, Uuid.read?_text]
  rfl

/-! ## Objects -/

/-- A field of an object, before others or at its end. -/
theorem readFields_field {fuel : Nat} {value after rest : List Symbol} {doc : Json}
    {others : List (RawString × Json)} (cs : List Char)
    (hvalue : readValue fuel value = some (doc, after))
    (hafter : (∃ more, after = some ',' :: more ∧ readFields fuel more = some (others, rest)) ∨
      after = some '\x7d' :: rest ∧ others = []) :
    ∃ name, Json.text? name = some (String.ofList cs) ∧
      readFields (fuel + 1) ((quoted cs).map some ++ some ':' :: value) =
        some ((name, doc) :: others, rest) := by
  obtain ⟨name, hread, hchars⟩ := readString_quoted cs (some ':' :: value)
  refine ⟨name, by rw [Json.text?, hchars]; rfl, ?_⟩
  rcases hafter with ⟨more, rfl, hothers⟩ | ⟨rfl, rfl⟩
  · simp (disch := decide) only [quoted, List.cons_append, List.map_cons, readFields,
      skipSpace_of_not_isSpace, hread, hvalue, hothers, bind, Option.bind]
  · simp (disch := decide) only [quoted, List.cons_append, List.map_cons, readFields,
      skipSpace_of_not_isSpace, hread, hvalue, bind, Option.bind]

theorem readValue_object {fuel : Nat} {cs : List Char} {tail rest : List Symbol}
    {fields : List (RawString × Json)}
    (h : readFields fuel ((quoted cs).map some ++ tail) = some (fields, rest)) :
    readValue (fuel + 1) (some '\x7b' :: ((quoted cs).map some ++ tail)) =
      some (.object fields, rest) := by
  simp only [quoted, List.cons_append, List.map_cons] at h ⊢
  simp (disch := decide) only [readValue, skipSpace_of_not_isSpace]
  split
  · rename_i heq
    cases heq
  · rw [h]
    rfl

/-- **An entry that survives is read from its object.** -/
theorem readValue_json {entry : Entry} (h : entry.Survives) (fuel : Nat) (rest : List Symbol) :
    ∃ doc, readValue (fuel + 4) (entry.json.map some ++ rest) = some (doc, rest) ∧
      ofJson? doc = some entry := by
  cases hcontent : entry.content? with
  | none =>
      -- only null has no content
      have hnull : entry = null := by
        cases entry <;> first | rfl | cases hcontent
      subst hnull
      exact ⟨.object [([.char 't'], .string [.char 'n', .char 'u', .char 'l', .char 'l'])], rfl, rfl⟩
  | some content =>
      obtain ⟨doc, hdoc, htagged⟩ := h content hcontent fuel rest
      obtain ⟨second, hsecond, hlast⟩ := readFields_field ['v'] hdoc (.inr ⟨rfl, rfl⟩)
      obtain ⟨tag, htag, htext⟩ := readValue_quoted (fuel + 1) entry.tag
        (some ',' :: ((quoted ['v']).map some ++ some ':' :: (content.map some ++ some '\x7d' :: rest)))
      obtain ⟨first, hfirst, hfields⟩ := readFields_field ['t'] htag (.inl ⟨_, rfl, hlast⟩)
      refine ⟨.object [(first, .string tag), (second, doc)], ?_, ?_⟩
      · rw [← readValue_object hfields]
        simp only [json, hcontent, List.map_append, List.map_cons, List.map_nil, List.cons_append,
          List.append_assoc, List.nil_append]
      · have ht : Json.text? first = some "t" := hfirst
        have hv : Json.text? second = some "v" := hsecond
        have htag' : jsonTag? (.string tag) = some (String.ofList entry.tag) := htext
        simp [ofJson?, taggedFields?, ht, hv, htag', htagged, bind, Option.bind]

/-! ## Arrays -/

theorem intercalate_cons_cons (a b : List Char) (rest : List (List Char)) :
    List.intercalate [','] (a :: b :: rest) = a ++ ',' :: List.intercalate [','] (b :: rest) := by
  simp [List.intercalate, List.intersperse]

/-- **Entries that survive are read from an array**, up to its closing bracket. -/
theorem readItems_entries {entry : Entry} {entries : List Entry}
    (h : ∀ e ∈ entry :: entries, e.Survives) (fuel : Nat) (rest : List Symbol) :
    ∃ docs, readItems (fuel + 5 + entries.length)
        ((List.intercalate [','] ((entry :: entries).map json) ++ [']']).map some ++ rest) =
        some (docs, rest) ∧
      docs.mapM ofJson? = some (entry :: entries) := by
  induction entries generalizing entry fuel with
  | nil =>
      obtain ⟨doc, hread, hjson⟩ :=
        readValue_json (h entry List.mem_cons_self) fuel (some ']' :: rest)
      refine ⟨[doc], ?_, by simp [hjson, bind, Option.bind]⟩
      have hitems : List.intercalate [','] ([entry].map json) = entry.json := by
        simp [List.intercalate]
      rw [hitems, List.map_append, List.append_assoc]
      simp (disch := decide) only [List.length_nil, Nat.add_zero, readItems, List.map_cons,
        List.map_nil, List.cons_append, List.nil_append, hread, bind, Option.bind,
        skipSpace_of_not_isSpace]
  | cons second entries ih =>
      obtain ⟨docs, hitems, hjsons⟩ :=
        ih (fun e he => h e (List.mem_cons_of_mem _ he)) fuel
      obtain ⟨doc, hread, hjson⟩ := readValue_json (h entry List.mem_cons_self)
        (fuel + 1 + entries.length) (some ',' ::
          ((List.intercalate [','] ((second :: entries).map json) ++ [']']).map some ++ rest))
      refine ⟨doc :: docs, ?_, by
        rw [List.mapM_cons, hjson, hjsons]
        rfl⟩
      -- one more item takes one more step
      rw [show fuel + 1 + entries.length + 4 = fuel + 5 + entries.length by omega] at hread
      rw [List.map_cons, List.map_cons, intercalate_cons_cons, ← List.map_cons, List.length_cons,
        List.append_assoc, List.cons_append, List.map_append, List.append_assoc, List.map_cons,
        List.cons_append, ← Nat.add_assoc]
      simp (disch := decide) only [readItems, hread, bind, Option.bind, skipSpace_of_not_isSpace,
        hitems]

/-- Each entry takes a character at least. -/
theorem length_le_intercalate (entries : List Entry) :
    entries.length ≤ (List.intercalate [','] (entries.map json)).length := by
  induction entries with
  | nil => exact Nat.zero_le _
  | cons entry entries ih =>
      have hjson : 1 ≤ entry.json.length := by simp [json]
      cases entries with
      | nil => simpa [List.intercalate] using hjson
      | cons second entries =>
          rw [List.map_cons, List.map_cons, intercalate_cons_cons, ← List.map_cons]
          simp only [List.length_append, List.length_cons] at ih ⊢
          omega

/-- An array whose first item is an object. -/
theorem readValue_array {fuel : Nat} {s rest : List Symbol} {docs : List Json}
    (h : readItems fuel (some '\x7b' :: s) = some (docs, rest)) :
    readValue (fuel + 1) (some '[' :: some '\x7b' :: s) = some (.array docs, rest) := by
  simp (disch := decide) only [readValue, skipSpace_of_not_isSpace]
  split
  · rename_i heq
    cases heq
  · rw [h]
    rfl

/-- Entries make a list of characters that starts as their first object does. -/
theorem intercalate_brace (entry : Entry) (entries : List Entry) :
    ∃ cs, List.intercalate [','] ((entry :: entries).map json) ++ [']'] = '\x7b' :: cs := by
  cases entries with
  | nil => exact ⟨_, by simp [List.intercalate, json]; rfl⟩
  | cons second entries =>
      exact ⟨_, by
        rw [List.map_cons, List.map_cons, intercalate_cons_cons, json]
        rfl⟩

end Entry

namespace Cursor

open Entry

/-- **The bytes of a token give its entries.** -/
theorem ofPayload?_payload {entries : List Entry} (h : ∀ e ∈ entries, e.Survives) :
    ofPayload? (String.ofList (payload entries)).toUTF8.toList = some entries := by
  have hsymbols := symbols_toUTF8 (String.ofList (payload entries))
  rw [String.toList_ofList] at hsymbols
  rw [ofPayload?, hsymbols]
  cases entries with
  | nil => rfl
  | cons entry entries =>
      have hlength := length_le_intercalate (entry :: entries)
      generalize hitems : List.intercalate [','] ((entry :: entries).map json) = items at hlength
      have hpayload : payload (entry :: entries) = '[' :: (items ++ [']']) := by
        rw [payload, hitems]
        rfl
      -- the reader has steps enough, since every entry takes a character
      have hfuel : 2 * (payload (entry :: entries)).length + 2 =
          2 * items.length - entries.length + 5 + entries.length + 1 := by
        rw [hpayload]
        simp only [List.length_cons, List.length_append, List.length_nil] at hlength ⊢
        omega
      obtain ⟨docs, hread, hjsons⟩ := readItems_entries h (2 * items.length - entries.length) []
      obtain ⟨cs, hcs⟩ := intercalate_brace entry entries
      rw [hitems] at hread hcs
      rw [List.append_nil, hcs] at hread
      have hdoc : Json.read? ((payload (entry :: entries)).map some) = some (.array docs) := by
        rw [Json.read?, List.length_map, hfuel, hpayload, hcs, List.map_cons, List.map_cons,
          readValue_array hread]
        rfl
      rw [hdoc]
      exact hjsons

/-! ## Tuples -/

/-- A distinct variant is found at its place. -/
theorem find?_of_nodup {variants : List String} {m : Member} (hnodup : variants.Nodup)
    (h : variants[m.ordinal]? = some m.name) : Member.find? variants m.name = some m := by
  obtain ⟨hlt, hname⟩ := List.getElem?_eq_some_iff.mp h
  have hidx : variants.findIdx? (· == m.name) = some m.ordinal := by
    rw [List.findIdx?_eq_some_iff_getElem]
    refine ⟨hlt, by simp [hname], ?_⟩
    intro j hj
    rw [← hname, beq_iff_eq]
    exact fun heq => absurd ((List.getElem_inj hnodup).mp heq) (Nat.ne_of_lt hj)
  rw [Member.find?, hidx]
  rfl

/-- **What a key holds is carried**: it has an entry, which survives and stands for it. -/
theorem exists_entry {key : KeyType} {s : Scalar} (h : key.Holds s) :
    ∃ entry, ofScalar? s = some entry ∧ entry.Survives ∧ entry.scalar? key = some s := by
  obtain ⟨type, nullable⟩ := key
  rcases h with ⟨hnull, rfl⟩ | hexact
  · exact ⟨.null, rfl, survives_null, by simp only at hnull; simp [scalar?, hnull]⟩
  · simp only at hexact
    cases s with
    | null => cases type <;> exact hexact.elim
    | bool b =>
        cases type <;> first | exact hexact.elim | exact ⟨.bool b, rfl, survives_bool b, rfl⟩
    | number n =>
        cases n with
        | int n => cases type <;> first | exact hexact.elim | exact ⟨.int n, rfl, survives_int n, rfl⟩
        | uint n =>
            cases type <;> first | exact hexact.elim | exact ⟨.uint n, rfl, survives_uint n, rfl⟩
        | float x =>
            cases type with
            | float => exact ⟨.float x, if_pos hexact, survives_float hexact, rfl⟩
            | _ => exact hexact.elim
    | string s =>
        cases type <;> first | exact hexact.elim | exact ⟨.text s, rfl, survives_text s, rfl⟩
    | timestamp t =>
        cases type with
        | timestamp => exact ⟨.time t, rfl, survives_time hexact, rfl⟩
        | _ => exact hexact.elim
    | uuid u =>
        cases type <;> first | exact hexact.elim | exact ⟨.uuid u, rfl, survives_uuid u, rfl⟩
    | enum m =>
        cases type with
        | enum variants =>
            refine ⟨.enum m.name, rfl, survives_enum m.name, ?_⟩
            simp only [scalar?, find?_of_nodup hexact.1 hexact.2, Option.map_some]
        | _ => exact hexact.elim

/-- The entries of a tuple. -/
theorem exists_entries {keys : List KeyType} {values : List Scalar}
    (h : KeyType.Tuple keys values) (catalog : Catalog) :
    ∃ entries, (∀ index, entriesFrom index values = .ok entries) ∧ (∀ e ∈ entries, e.Survives) ∧
      entries.length = keys.length ∧
      ∀ index, scalarsFrom catalog index entries keys = .ok values := by
  induction h with
  | nil => exact ⟨[], fun _ => rfl, by simp, rfl, fun _ => rfl⟩
  | @cons key keys s values head _ ih =>
      obtain ⟨entry, hentry, hsurvives, hscalar⟩ := exists_entry head
      obtain ⟨entries, hentries, hall, hlength, hscalars⟩ := ih
      refine ⟨entry :: entries, fun index => ?_, ?_, by simp [hlength], fun index => ?_⟩
      · simp only [entriesFrom, hentry, hentries, Except.map]
      · intro e he
        rcases List.mem_cons.mp he with rfl | he
        · exact hsurvives
        · exact hall e he
      · simp only [scalarsFrom, hscalar, hscalars, Except.map]

/-- **A token is read as the scalars that its entries stand for.** -/
theorem exists_token_of_entries {values : List Scalar} {entries : List Entry}
    (hentries : entriesFrom 0 values = .ok entries) (hall : ∀ e ∈ entries, e.Survives) :
    ∃ token, encode values = .ok token ∧ ∀ (catalog : Catalog) (keys : List KeyType),
      entries.length = keys.length →
        decode catalog token keys = scalarsFrom catalog 0 entries keys := by
  refine ⟨_, by simp only [encode, hentries, bind, Except.bind]; rfl, fun catalog keys hlength => ?_⟩
  rw [decode, String.toList_ofList, Base64Url.decode?_encode]
  simp only [ofPayload?_payload hall, hlength, if_true]

/-- **A tuple is read from its token.** -/
theorem exists_token {keys : List KeyType} {values : List Scalar}
    (h : KeyType.Tuple keys values) (catalog : Catalog) :
    ∃ token, encode values = .ok token ∧ decode catalog token keys = .ok values := by
  obtain ⟨entries, hentries, hall, hlength, hscalars⟩ := exists_entries h catalog
  obtain ⟨token, hencode, hdecode⟩ := exists_token_of_entries (hentries 0) hall
  exact ⟨token, hencode, (hdecode catalog keys hlength).trans (hscalars 0)⟩

theorem decode_eq_of_encode {keys : List KeyType} {values : List Scalar} {token : String}
    (h : KeyType.Tuple keys values) (catalog : Catalog) (htoken : encode values = .ok token) :
    decode catalog token keys = .ok values := by
  obtain ⟨token', hencode, hdecode⟩ := exists_token h catalog
  rw [htoken] at hencode
  cases hencode
  exact hdecode

/-- **The round trip.** A tuple of the key types has a token, the token is read as the tuple, every
    value of its kind and at its place, and no other tuple of the key types has that token. -/
theorem round_trip {keys : List KeyType} {values : List Scalar} (h : KeyType.Tuple keys values)
    (catalog : Catalog) :
    ∃ token, encode values = .ok token ∧ decode catalog token keys = .ok values ∧
      ∀ others, KeyType.Tuple keys others → encode others = .ok token → others = values := by
  obtain ⟨token, hencode, hdecode⟩ := exists_token h catalog
  refine ⟨token, hencode, hdecode, fun others hothers htoken => ?_⟩
  have hdecode' := decode_eq_of_encode hothers catalog htoken
  exact Except.ok.inj (hdecode'.symm.trans hdecode)

/-- Values that are easily lost on the way: minus zero, a text with a quote, a backslash and a
    control character, the leap second that ends the year -1, and a member that is not the first. -/
def delicate : List Scalar :=
  [.number (.float (.zero true)), .string "\"\\\x00é", .timestamp ⟨-62167219201, 1999999999⟩,
    .enum ⟨"old", 1⟩, .null]

/-- The types of the keys that have such values. -/
def delicateKeys : List KeyType :=
  [⟨.float, false⟩, ⟨.string, false⟩, ⟨.timestamp, false⟩, ⟨.enum ["new", "old"], false⟩,
    ⟨.uint, true⟩]

theorem delicate_tuple : KeyType.Tuple delicateKeys delicate :=
  .cons (Or.inr (by decide : (Binary64.zero true).isFinite = true)) <|
    .cons (Or.inr trivial) <|
    .cons (Or.inr ⟨by decide, Or.inr (by decide)⟩) <|
    .cons (Or.inr ⟨by decide, rfl⟩) <|
    .cons (Or.inl ⟨rfl, rfl⟩) .nil

theorem round_trip_delicate : KeyType.Tuple delicateKeys delicate ∧
    ∃ token, encode delicate = .ok token ∧ decode ⟨[]⟩ token delicateKeys = .ok delicate := by
  obtain ⟨token, hencode, hdecode, -⟩ := round_trip delicate_tuple ⟨[]⟩
  exact ⟨delicate_tuple, token, hencode, hdecode⟩

end Cursor
end RecordQuery
