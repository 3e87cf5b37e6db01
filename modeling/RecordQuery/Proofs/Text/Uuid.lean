import RecordQuery.Proofs.Json.Reader
import RecordQuery.Uuid

/-!
# `Proofs.Text.Uuid` — the text of an identifier is read as that identifier

The groups between the hyphens are the thirty-two digits of one number, cut into pieces
(`hexPadded_add`), and the reader puts them together again (`read?_text`).
-/

namespace RecordQuery.Uuid

open Text

theorem length_hexPadded (width n : Nat) : (hexPadded width n).length = width := by
  induction width generalizing n with
  | zero => rfl
  | succ width ih => rw [hexPadded, List.length_append, ih, List.length_singleton]

/-- Digits are cut where a power of sixteen cuts the number. -/
theorem hexPadded_add (front back n : Nat) :
    hexPadded (front + back) n = hexPadded front (n / 16 ^ back) ++ hexPadded back n := by
  induction back generalizing n with
  | zero => rw [Nat.pow_zero, Nat.div_one, Nat.add_zero, hexPadded, List.append_nil]
  | succ back ih =>
      rw [← Nat.add_assoc, hexPadded, ih, hexPadded, Nat.pow_succ, Nat.div_div_eq_div_mul,
        Nat.mul_comm 16, List.append_assoc]

theorem hexValue?_append (as : List Char) (c : Char) :
    hexValue? (as ++ [c]) =
      (hexValue? as).bind fun n => (hexDigit? c).map (n * 16 + ·) := by
  unfold hexValue?
  rw [List.foldlM_append]
  cases List.foldlM (fun n c => (hexDigit? c).map (n * 16 + ·)) 0 as with
  | none => rfl
  | some n =>
      show List.foldlM (fun n c => (hexDigit? c).map (n * 16 + ·)) n [c] = _
      rw [List.foldlM_cons, Option.bind_some]
      cases hexDigit? c <;> rfl

theorem hexValue?_hexPadded (width n : Nat) :
    hexValue? (hexPadded width n) = some (n % 16 ^ width) := by
  induction width generalizing n with
  | zero => rw [Nat.pow_zero, Nat.mod_one]; rfl
  | succ width ih =>
      rw [hexPadded, hexValue?_append, ih, Option.bind_some,
        Json.hexDigit?_digitChar (Nat.mod_lt _ (by decide)), Nat.pow_succ,
        Nat.mul_comm (16 ^ width) 16, Nat.mod_mul, Option.map_some]
      congr 1
      omega

/-- Five groups with hyphens between them. -/
theorem readHyphenated?_groups {as bs cs ds es : List Char} (ha : as.length = 8)
    (hb : bs.length = 4) (hc : cs.length = 4) (hd : ds.length = 4) (he : es.length = 12) :
    readHyphenated? (as ++ '-' :: bs ++ '-' :: cs ++ '-' :: ds ++ '-' :: es) =
      readDigits? (as ++ bs ++ cs ++ ds ++ es) := by
  match as, bs, cs, ds, es with
  | [_, _, _, _, _, _, _, _], [_, _, _, _], [_, _, _, _], [_, _, _, _],
      [_, _, _, _, _, _, _, _, _, _, _, _] => rfl

/-- The groups of the text are the digits of the whole number. -/
theorem hexPadded_groups (n : Nat) :
    hexPadded 8 (n / 2 ^ 96) ++ hexPadded 4 (n / 2 ^ 80) ++ hexPadded 4 (n / 2 ^ 64) ++
      hexPadded 4 (n / 2 ^ 48) ++ hexPadded 12 n = hexPadded 32 n := by
  have h48 : hexPadded 4 (n / 2 ^ 48) ++ hexPadded 12 n = hexPadded 16 n :=
    (hexPadded_add 4 12 n).symm
  have h64 : hexPadded 4 (n / 2 ^ 64) ++ hexPadded 16 n = hexPadded 20 n :=
    (hexPadded_add 4 16 n).symm
  have h80 : hexPadded 4 (n / 2 ^ 80) ++ hexPadded 20 n = hexPadded 24 n :=
    (hexPadded_add 4 20 n).symm
  have h96 : hexPadded 8 (n / 2 ^ 96) ++ hexPadded 24 n = hexPadded 32 n :=
    (hexPadded_add 8 24 n).symm
  rw [← h96, ← h80, ← h64, ← h48]
  simp only [List.append_assoc]

/-- **The text of an identifier is read as that identifier.** -/
theorem read?_text (u : Uuid) : read? u.text.toList = some u := by
  obtain ⟨bits⟩ := u
  have hbits : bits.toNat < 16 ^ 32 := by
    have hlt := bits.isLt
    omega
  generalize htext : (text ⟨bits⟩).toList = cs
  rw [text, String.toList_ofList] at htext
  have hlength : cs.length = 36 := by
    rw [← htext]
    simp only [List.length_append, List.length_cons, length_hexPadded]
  have hread : readHyphenated? cs = some ⟨bits⟩ := by
    rw [← htext, readHyphenated?_groups (length_hexPadded _ _) (length_hexPadded _ _)
      (length_hexPadded _ _) (length_hexPadded _ _) (length_hexPadded _ _), hexPadded_groups,
      readDigits?, if_pos (length_hexPadded _ _), hexValue?_hexPadded, Option.map_some,
      Nat.mod_eq_of_lt hbits, BitVec.ofNat_toNat, BitVec.setWidth_eq]
  simp only [read?, hlength]
  exact hread

end RecordQuery.Uuid
