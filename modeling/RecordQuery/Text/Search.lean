/-!
# `RecordQuery.Text.Search` — one text inside another
-/

namespace RecordQuery.Text

/-- Whether `needle` stands somewhere in the text. -/
def containsRun (needle : List Char) : List Char → Bool
  | [] => needle.isEmpty
  | c :: cs => needle.isPrefixOf (c :: cs) || containsRun needle cs

/-- A text contains exactly the runs that it can be cut around. -/
theorem containsRun_iff {needle cs : List Char} :
    containsRun needle cs = true ↔ ∃ front back, cs = front ++ needle ++ back := by
  induction cs with
  | nil =>
    simp only [containsRun, List.isEmpty_iff]
    constructor
    · rintro rfl
      exact ⟨[], [], rfl⟩
    · rintro ⟨f, b, h⟩
      have := congrArg List.length h
      simp only [List.length_nil, List.length_append] at this
      exact List.eq_nil_of_length_eq_zero (by omega)
  | cons c cs ih =>
    simp only [containsRun, Bool.or_eq_true, ih, List.isPrefixOf_iff_prefix]
    constructor
    · rintro (⟨b, hb⟩ | ⟨f, b, rfl⟩)
      · exact ⟨[], b, by simpa using hb.symm⟩
      · exact ⟨c :: f, b, rfl⟩
    · rintro ⟨f, b, h⟩
      cases f with
      | nil => exact Or.inl ⟨b, by simpa using h.symm⟩
      | cons d f =>
        simp only [List.cons_append, List.cons.injEq] at h
        exact Or.inr ⟨f, b, h.2⟩

end RecordQuery.Text
