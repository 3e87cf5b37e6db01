import RecordQuery.Cursor.Base64Url

/-!
# `Proofs.Cursor.Base64Url` — the letters for bytes are read as those bytes

Reading what was written gives the bytes again (`decode?_encode`): three bytes at a time as four
groups of six bits, with one or two bytes left over at the end.
-/

namespace RecordQuery.Base64Url

theorem digit?_digit {n : Nat} (h : n < 64) : digit? (digit n) = some n := by
  have hall : ∀ n < 64, digit? (digit n) = some n := by decide
  exact hall n h

theorem digit?_digit_mod (n : Nat) : digit? (digit (n % 64)) = some (n % 64) :=
  digit?_digit (Nat.mod_lt _ (by decide))

/-- A number that is a byte's is read as that byte. -/
theorem ofNat_eq {n : Nat} {a : UInt8} (h : n = a.toNat) : UInt8.ofNat n = a := by
  rw [h, UInt8.ofNat_toNat]

/-- **Bytes survive**: reading the letters for bytes gives them back. By the recursion of the
    writer; the numbers `n` are the bytes of one step side by side. -/
theorem decode?_encode (bytes : List UInt8) : decode? (encode bytes) = some bytes := by
  fun_induction encode bytes with
  | case1 a b c rest n ih =>
      have ha := a.toNat_lt
      have hb := b.toNat_lt
      have hc := c.toNat_lt
      have hn : n = (a.toNat * 256 + b.toNat) * 256 + c.toNat := rfl
      have hdigits : ((n / 262144 * 64 + n / 4096 % 64) * 64 + n / 64 % 64) * 64 + n % 64 = n := by
        omega
      have hfirst : UInt8.ofNat (n / 65536) = a := ofNat_eq (by omega)
      have hsecond : UInt8.ofNat (n / 256 % 256) = b := ofNat_eq (by omega)
      have hthird : UInt8.ofNat (n % 256) = c := ofNat_eq (by omega)
      simp only [decode?, digit?_digit (show n / 262144 < 64 by omega), digit?_digit_mod, ih, bind,
        Option.bind]
      rw [hdigits, hfirst, hsecond, hthird]
  | case2 a b n =>
      have ha := a.toNat_lt
      have hb := b.toNat_lt
      have hn : n = (a.toNat * 256 + b.toNat) * 4 := rfl
      have hdigits : (n / 4096 * 64 + n / 64 % 64) * 64 + n % 64 = n := by omega
      have hfirst : UInt8.ofNat (n / 1024) = a := ofNat_eq (by omega)
      have hsecond : UInt8.ofNat (n / 4 % 256) = b := ofNat_eq (by omega)
      simp only [decode?, digit?_digit (show n / 4096 < 64 by omega), digit?_digit_mod, bind,
        Option.bind]
      rw [hdigits, if_pos (by omega), hfirst, hsecond]
  | case3 a n =>
      have ha := a.toNat_lt
      have hn : n = a.toNat * 16 := rfl
      have hdigits : n / 64 * 64 + n % 64 = n := by omega
      have hfirst : UInt8.ofNat (n / 16) = a := ofNat_eq (by omega)
      simp only [decode?, digit?_digit (show n / 64 < 64 by omega), digit?_digit_mod, bind,
        Option.bind]
      rw [hdigits, if_pos (by omega), hfirst]
  | case4 => rfl

end RecordQuery.Base64Url
