import RecordQuery.Proofs.Text.LowerCase

/-!
# `Proofs.Text.Context` — lowering a piece of a text

How a text is lowered depends on its context in one place: a capital sigma is final or not by what
stands on both of its sides. So a piece of a text need not be lowered as it is alone. It is just if
each of its capital sigmas ends a word in the text as it does in the piece (`KeepsEnds`).

## Contents
- `lowerBetween`, `lowerAfter_append`: lowering with something on both sides.
- `lowerBetween_eq_iff`: **the contexts in which a piece is lowered alike.**
- `lower_infix`, `lower_prefix_iff`, `lower_suffix_iff`: what follows for one text inside another.
-/

namespace RecordQuery.Text

variable {before after before' after' cs : List Char} {c : Char}

/-! ## Contexts -/

/-- Whether a capital sigma ends a word between two texts, the left one nearest character first. -/
def endsWord (before after : List Char) : Bool := casedAhead before && !casedAhead after

/-- Lowers a character that ends a word or does not. -/
def lowerEnding (final : Bool) (c : Char) : List Char :=
  if c = 'Σ' then if final then ['ς'] else ['σ'] else lowerChar c

/-- Lowers a text between two others. -/
def lowerBetween (before after : List Char) : List Char → List Char
  | [] => []
  | c :: cs => lowerEnding (endsWord before (cs ++ after)) c ++ lowerBetween (c :: before) after cs

theorem lowerAfter_cons (before : List Char) (c : Char) (cs : List Char) :
    lowerAfter before (c :: cs) = lowerEnding (endsWord before cs) c ++ lowerAfter (c :: before) cs :=
  rfl

theorem lowerAfter_eq_lowerBetween (before cs : List Char) :
    lowerAfter before cs = lowerBetween before [] cs := by
  induction cs generalizing before with
  | nil => rfl
  | cons c cs ih => rw [lowerAfter_cons, lowerBetween, List.append_nil, ih]

/-- **The parts of a text are lowered each in its context.** -/
theorem lowerAfter_append (before cs ds : List Char) :
    lowerAfter before (cs ++ ds) =
      lowerBetween before ds cs ++ lowerAfter (cs.reverse ++ before) ds := by
  induction cs generalizing before with
  | nil => rfl
  | cons c cs ih =>
      rw [List.cons_append, lowerAfter_cons, ih, lowerBetween, List.append_assoc,
        List.reverse_cons, List.append_assoc, List.singleton_append]

theorem length_lowerEnding (final final' : Bool) (c : Char) :
    (lowerEnding final c).length = (lowerEnding final' c).length := by
  unfold lowerEnding
  split
  · cases final <;> cases final' <;> rfl
  · rfl

/-- No context changes the length. -/
theorem length_lowerBetween (before after before' after' cs : List Char) :
    (lowerBetween before after cs).length = (lowerBetween before' after' cs).length := by
  induction cs generalizing before before' with
  | nil => rfl
  | cons c cs ih =>
      rw [lowerBetween, lowerBetween, List.length_append, List.length_append, ih _ (c :: before'),
        length_lowerEnding]

/-! ## Contexts that lower a piece alike -/

/-- Each capital sigma of the piece ends a word in the one context just if it does in the other. -/
def SameEnds (before after before' after' piece : List Char) : Prop :=
  ∀ front back, piece = front ++ 'Σ' :: back →
    endsWord (front.reverse ++ before) (back ++ after) =
      endsWord (front.reverse ++ before') (back ++ after')

theorem sameEnds_nil : SameEnds before after before' after' [] := by
  intro front back h
  cases front <;> cases h

theorem sameEnds_cons : SameEnds before after before' after' (c :: cs) ↔
    (c = 'Σ' → endsWord before (cs ++ after) = endsWord before' (cs ++ after')) ∧
      SameEnds (c :: before) after (c :: before') after' cs := by
  constructor
  · intro h
    refine ⟨?_, ?_⟩
    · rintro rfl
      exact h [] cs rfl
    · rintro front back rfl
      have hback := h (c :: front) back rfl
      rwa [List.reverse_cons, List.append_assoc, List.append_assoc] at hback
  · rintro ⟨hhere, hrest⟩ front back h
    cases front with
    | nil =>
        cases h
        exact hhere rfl
    | cons d front =>
        obtain ⟨rfl, hcs⟩ := List.cons.inj h
        have hback := hrest front back hcs
        rwa [List.reverse_cons, List.append_assoc, List.append_assoc]

theorem lowerEnding_eq_iff {final final' : Bool} :
    lowerEnding final c = lowerEnding final' c ↔ (c = 'Σ' → final = final') := by
  unfold lowerEnding
  split
  · cases final <;> cases final' <;> simp_all
  · simp_all

/-- **Two contexts lower a piece alike just if its capital sigmas end words in both or in neither.** -/
theorem lowerBetween_eq_iff : lowerBetween before after cs = lowerBetween before' after' cs ↔
    SameEnds before after before' after' cs := by
  induction cs generalizing before before' with
  | nil => exact iff_of_true rfl sameEnds_nil
  | cons c cs ih =>
      rw [sameEnds_cons, ← lowerEnding_eq_iff, ← ih, lowerBetween, lowerBetween]
      constructor
      · exact fun h => List.append_inj h (length_lowerEnding ..)
      · rintro ⟨hhere, hrest⟩
        rw [hhere, hrest]

/-! ## One text inside another -/

/-- Each capital sigma of the piece ends a word between the two texts just if it does in the piece
alone. -/
def KeepsEnds (before after piece : List Char) : Prop := SameEnds before after [] [] piece

instance : Decidable (KeepsEnds before after cs) := decidable_of_iff _ lowerBetween_eq_iff

theorem keepsEnds_of_not_mem (h : 'Σ' ∉ cs) : KeepsEnds before after cs := by
  rintro front back rfl
  exact absurd (List.mem_append_right front List.mem_cons_self) h

theorem toList_lower (s : String) : (lower s).toList = lowerBetween [] [] s.toList := by
  rw [lower, String.toList_ofList, lowerAfter_eq_lowerBetween]

/-- A text is lowered in three parts. -/
theorem toList_lower_of_eq {s : String} {front piece back : List Char}
    (h : s.toList = front ++ piece ++ back) :
    (lower s).toList = lowerBetween [] (piece ++ back) front ++
      lowerBetween front.reverse back piece ++ lowerAfter (piece.reverse ++ front.reverse) back := by
  rw [lower, String.toList_ofList, h, List.append_assoc, lowerAfter_append, lowerAfter_append,
    List.append_nil, List.append_assoc]

variable {s t : String} {front back : List Char}

/-- **What stands in a text stands in the lowered text**, where its capital sigmas keep their
ends. -/
theorem lower_infix (h : s.toList = front ++ t.toList ++ back)
    (hkeeps : KeepsEnds front.reverse back t.toList) : (lower t).toList <:+: (lower s).toList := by
  rw [toList_lower, toList_lower_of_eq h, lowerBetween_eq_iff.mpr hkeeps]
  exact ⟨_, _, rfl⟩

/-- **A lowered text starts with the lowered start** just where its capital sigmas keep their
ends. -/
theorem lower_prefix_iff (h : s.toList = t.toList ++ back) :
    (lower t).toList <+: (lower s).toList ↔ KeepsEnds [] back t.toList := by
  have hlower := @toList_lower_of_eq s [] t.toList back h
  rw [lowerBetween, List.nil_append, List.reverse_nil] at hlower
  rw [toList_lower t, hlower, KeepsEnds, ← lowerBetween_eq_iff]
  constructor
  · rintro ⟨rest, hrest⟩
    exact (List.append_inj hrest (length_lowerBetween ..)).1.symm
  · intro heq
    rw [heq]
    exact List.prefix_append _ _

/-- **A lowered text ends with the lowered end** just where its capital sigmas keep their ends. -/
theorem lower_suffix_iff (h : s.toList = front ++ t.toList) :
    (lower t).toList <:+ (lower s).toList ↔ KeepsEnds front.reverse [] t.toList := by
  have hlower := @toList_lower_of_eq s front t.toList [] (by rw [List.append_nil, h])
  rw [lowerAfter, List.append_nil] at hlower
  rw [toList_lower t, hlower, KeepsEnds, ← lowerBetween_eq_iff]
  constructor
  · rintro ⟨rest, hrest⟩
    exact (List.append_inj' hrest (length_lowerBetween ..)).2.symm
  · intro heq
    rw [heq]
    exact List.suffix_append _ _

end RecordQuery.Text
