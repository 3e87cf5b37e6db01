import RecordQuery.Json.Quoted
import RecordQuery.Json.Reader
import RecordQuery.Json.Symbols
import RecordQuery.Proofs.Text.Digits

/-!
# `Proofs.Json.Reader` — the JSON reader reads what writers write

- `symbols_toUTF8`: the bytes of a text spell its characters.
- `readString_quoted`: a quoted text is read as a string that stands for the text.
- `readUnsigned_whole`, `readNumber_int`: digits are read as the integer they write.
-/

namespace RecordQuery.Json

open Text

/-! ## Bytes -/

theorem toList_loop (bytes : ByteArray) (i : Nat) (done : List UInt8) :
    ByteArray.toList.loop bytes i done = done.reverse ++ bytes.data.toList.drop i := by
  fun_induction ByteArray.toList.loop bytes i done with
  | case1 i done h ih =>
      have hi : i < bytes.data.toList.length := h
      have hget : bytes.get! i = bytes.data.toList[i] := getElem!_pos bytes.data i h
      rw [ih, List.reverse_cons, List.append_assoc, List.drop_eq_getElem_cons hi, hget]
      rfl
  | case2 i done h =>
      have hi : bytes.data.toList.length ≤ i := Nat.not_lt.mp h
      rw [List.drop_eq_nil_of_le hi, List.append_nil]

/-- **The bytes of a text spell its characters.** -/
theorem symbols_toUTF8 (s : String) : symbols ⟨s.toUTF8.toList.toArray⟩ = s.toList.map some := by
  have hbytes : (⟨s.toUTF8.toList.toArray⟩ : ByteArray) = s.toByteArray := by
    rw [ByteArray.toList, toList_loop]
    rfl
  rw [hbytes, symbols, String.fromUTF8?, dif_pos s.isValidUTF8]
  rfl

/-! ## White space -/

theorem skipSpace_of_not_isSpace {c : Char} (h : isSpace c = false) (rest : List Symbol) :
    skipSpace (some c :: rest) = some c :: rest := by
  simp only [skipSpace, h, Bool.false_eq_true, if_false]

theorem isSpace_of_isDigit {c : Char} (h : isDigit c = true) : isSpace c = false := by
  cases hs : isSpace c with
  | false => rfl
  | true =>
      simp only [isSpace, Bool.or_eq_true, beq_iff_eq] at hs
      rcases hs with ((rfl | rfl) | rfl) | rfl <;> exact absurd h (by decide)

/-! ## Strings -/

theorem hexDigit?_digitChar {n : Nat} (h : n < 16) : hexDigit? (Nat.digitChar n) = some n := by
  have hall : ∀ n < 16, hexDigit? (Nat.digitChar n) = some n := by decide
  exact hall n h

/-- The escape of a control character has its code. -/
theorem hexCode?_control {n : Nat} (h : n < 32) :
    hexCode? (some '0') (some '0') (some (Nat.digitChar (n / 16))) (some (Nat.digitChar (n % 16))) =
      some n := by
  have hhigh := hexDigit?_digitChar (show n / 16 < 16 by omega)
  have hlow := hexDigit?_digitChar (Nat.mod_lt n (show 0 < 16 by decide))
  have hzero : hexDigit? '0' = some 0 := by decide
  simp only [hexCode?, hexValue?, List.foldlM, bind, Option.bind, hzero, hhigh, hlow, Option.map,
    pure]
  congr 1
  omega

/-- One character between quotes is read as a piece that stands for it. -/
theorem readString_quotedChar (c : Char) {pieces : RawString} {rest rest' : List Symbol}
    (h : readString rest = some (pieces, rest')) :
    ∃ piece, readString ((quotedChar c).map some ++ rest) = some (piece :: pieces, rest') ∧
      textChars? (piece :: pieces) = (textChars? pieces).map (c :: ·) := by
  unfold quotedChar
  split
  -- a character with an escape of its own
  all_goals try exact ⟨.char _, by simp [readString, escape?, h, bind, Option.bind], rfl⟩
  rename_i hquote hslash _ _ _ _ _
  split
  · -- a control character becomes a `\u` escape
    rename_i hcontrol
    have hcode : c.toNat < 32 := hcontrol
    refine ⟨.unit c.toNat, ?_, ?_⟩
    · simp only [List.map_cons, List.map_nil, List.cons_append, List.nil_append, readString,
        hexCode?_control hcode, h, bind, Option.bind]
    · have hplain : c.toNat < 0xd800 ∨ 0xdfff < c.toNat := Or.inl (by omega)
      conv => lhs; unfold textChars?
      simp only [if_pos hplain, Char.ofNat_toNat]
  · rename_i hcontrol
    refine ⟨.char c, ?_, rfl⟩
    have hstop : ¬(c = '\\' ∨ c < ' ') := fun h => h.elim hslash hcontrol
    rw [List.map_singleton, List.singleton_append]
    unfold readString
    split
    all_goals simp_all

/-- **A quoted text is read as a string that stands for the text.** -/
theorem readString_quoted (cs : List Char) (rest : List Symbol) :
    ∃ pieces, readString ((cs.flatMap quotedChar ++ ['"']).map some ++ rest) = some (pieces, rest) ∧
      textChars? pieces = some cs := by
  induction cs with
  | nil => exact ⟨[], rfl, rfl⟩
  | cons c cs ih =>
      obtain ⟨pieces, hread, hchars⟩ := ih
      obtain ⟨piece, hpiece, htext⟩ := readString_quotedChar c hread
      refine ⟨piece :: pieces, ?_, ?_⟩
      · rw [← hpiece, List.flatMap_cons, List.append_assoc, List.map_append, List.append_assoc]
      · rw [htext, hchars]
        rfl

/-! ## Numbers -/

theorem digitsFront_append {cs : List Char} (h : ∀ c ∈ cs, isDigit c = true) (rest : List Symbol) :
    digitsFront (cs.map some ++ rest) = (cs ++ (digitsFront rest).1, (digitsFront rest).2) := by
  induction cs with
  | nil => rfl
  | cons c cs ih =>
      have ih := ih fun d hd => h d (List.mem_cons_of_mem _ hd)
      simp only [List.map_cons, List.cons_append, digitsFront, h c List.mem_cons_self, if_true, ih]

/-- Digits in front of something that is no digit. -/
theorem digitsFront_stop {cs : List Char} (h : ∀ c ∈ cs, isDigit c = true) {c : Char}
    (hc : isDigit c = false) (rest : List Symbol) :
    digitsFront (cs.map some ++ some c :: rest) = (cs, some c :: rest) := by
  have hstop : digitsFront (some c :: rest) = ([], some c :: rest) := by
    simp only [digitsFront, hc, Bool.false_eq_true, if_false]
  rw [digitsFront_append h, hstop, List.append_nil]

/-- Whether digits may stand before the point of a number: there is one, and no zero leads. -/
def LeadsWell (cs : List Char) : Prop := cs ≠ [] ∧ (cs.head? = some '0' → cs.length = 1)

theorem leadsWell_iff {cs : List Char} (h : LeadsWell cs) :
    (cs.isEmpty || (cs.head? == some '0' && cs.length != 1)) = false := by
  obtain ⟨hne, hzero⟩ := h
  rw [Bool.or_eq_false_iff, List.isEmpty_eq_false_iff, Bool.and_eq_false_iff]
  refine ⟨hne, ?_⟩
  by_cases hhead : cs.head? = some '0'
  · exact Or.inr (by simp [hzero hhead])
  · exact Or.inl (by simp [hhead])

theorem leadsWell_decimalDigits (n : Nat) : LeadsWell (decimalDigits n) := by
  refine ⟨decimalDigits_ne_nil n, ?_⟩
  intro h
  rw [decimalDigits_head h, decimalDigits_zero]
  rfl

/-- What is read as a number after its sign starts with a digit. -/
theorem exists_digit_of_readUnsigned {negative : Bool} {s : List Symbol}
    {result : Numeral × List Symbol} (h : readUnsigned negative s = some result) :
    ∃ c rest, s = some c :: rest ∧ isDigit c = true := by
  have hfront : (digitsFront s).1 ≠ [] := by
    intro hnil
    simp only [readUnsigned, hnil] at h
    cases h
  cases s with
  | nil => exact absurd rfl hfront
  | cons symbol rest =>
      cases symbol with
      | none => exact absurd rfl hfront
      | some c =>
          refine ⟨c, rest, rfl, ?_⟩
          cases hc : isDigit c with
          | true => rfl
          | false =>
              rw [digitsFront, hc] at hfront
              exact absurd rfl hfront

/-- What is read as a number starts with a digit or a minus. -/
theorem exists_first_of_readNumber {s : List Symbol} {result : Numeral × List Symbol}
    (h : readNumber s = some result) :
    ∃ c rest, s = some c :: rest ∧ (isDigit c = true ∨ c = '-') := by
  unfold readNumber at h
  split at h
  · exact ⟨'-', _, rfl, Or.inr rfl⟩
  · obtain ⟨c, rest, hcons, hc⟩ := exists_digit_of_readUnsigned h
    exact ⟨c, rest, hcons, Or.inl hc⟩

/-- Digits up to the end of an object are a whole number. -/
theorem readUnsigned_whole (negative : Bool) {cs : List Char} (h : ∀ c ∈ cs, isDigit c = true)
    (hlead : LeadsWell cs) (rest : List Symbol) :
    readUnsigned negative (cs.map some ++ some '\x7d' :: rest) =
      some (⟨⟨negative, digitsValue cs, 0⟩, true⟩, some '\x7d' :: rest) := by
  simp only [readUnsigned, digitsFront_stop h (show isDigit '\x7d' = false by decide),
    leadsWell_iff hlead]
  simp [bind, Option.bind]

theorem readNumber_digits (n : Nat) (rest : List Symbol) :
    readNumber ((decimalDigits n).map some ++ some '\x7d' :: rest) =
      some (⟨⟨false, n, 0⟩, true⟩, some '\x7d' :: rest) := by
  have hread := readUnsigned_whole false (fun c => isDigit_of_mem_decimalDigits)
    (leadsWell_decimalDigits n) rest
  rw [digitsValue_decimalDigits] at hread
  rw [← hread]
  cases hdigits : decimalDigits n with
  | nil => exact absurd hdigits (decimalDigits_ne_nil n)
  | cons c cs =>
      have hc : isDigit c = true := isDigit_of_mem_decimalDigits (by rw [hdigits]; simp)
      have hminus : c ≠ '-' := by
        rintro rfl
        exact absurd hc (by decide)
      simp only [List.map_cons, List.cons_append]
      unfold readNumber
      split
      · rename_i heq
        cases heq
        exact absurd rfl hminus
      · rfl

/-- **The digits of a natural number are read as that number.** -/
theorem readNumber_nat (n : Nat) (rest : List Symbol) :
    readNumber ((toString n).toList.map some ++ some '\x7d' :: rest) =
      some (⟨⟨false, n, 0⟩, true⟩, some '\x7d' :: rest) := by
  have hdigits : (toString n).toList = decimalDigits n := Nat.toList_repr
  rw [hdigits]
  exact readNumber_digits n rest

/-- **The digits of an integer and its sign are read as that integer.** -/
theorem readNumber_int (n : Int) (rest : List Symbol) :
    readNumber ((toString n).toList.map some ++ some '\x7d' :: rest) =
      some (⟨⟨decide (n < 0), n.natAbs, 0⟩, true⟩, some '\x7d' :: rest) := by
  cases n with
  | ofNat n => exact readNumber_nat n rest
  | negSucc n =>
      have hdigits : (toString (Int.negSucc n)).toList = '-' :: decimalDigits (n + 1) := by
        show ("-" ++ Nat.repr (n + 1)).toList = _
        rw [String.toList_append, Nat.toList_repr]
        rfl
      have hread := readUnsigned_whole true (fun c => isDigit_of_mem_decimalDigits)
        (leadsWell_decimalDigits (n + 1)) rest
      rw [digitsValue_decimalDigits] at hread
      rw [hdigits, decide_eq_true (Int.negSucc_lt_zero n)]
      exact hread

end RecordQuery.Json
