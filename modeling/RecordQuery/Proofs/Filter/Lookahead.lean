import RecordQuery.Proofs.Filter.Scanner

/-!
# `Proofs.Filter.Lookahead` — looking at tokens before they are taken

A stream of tokens is read by `next`, which takes a token, and by `peek`, which should only look at
it. A token that was looked at is held until it is taken, so that looking at tokens goes unnoticed.
An error is not held: a peek that meets one leaves it behind, as a call of `next` does, and with it
the characters that it takes. An unexpected character takes none and comes up again; a malformed
number or a string without an end is lost to the calls after the peek.

## Contents
- `Call`, `Lookahead.transcript`: calls of a stream and what they give.
- `Scanner.fetch_unexpected`: an unexpected character stays where it is.
- `peek_cases`, `peek_of_harmless`: one peek, and one that goes unnoticed.
- `map_filter_transcript`, `foretells_transcript`: runs of calls, by induction.
- `peek_transparency`: **a peek counts as a call of `next` just where it fails**; what that says of
  runs whose peeks lose no error.
- `peek_loses_error`: a run in which one does.
-/

namespace RecordQuery.Filter

/-! ## Calls -/

/-- A call of a stream of tokens. -/
inductive Call where
  | next
  | peek
deriving DecidableEq

/-- A call and what it gives. -/
abbrev Reply := Call × Except LexError Token

namespace Lookahead

def call (s : Lookahead) : Call → Except LexError Token × Lookahead
  | .next => s.next
  | .peek => s.peek

/-- Calls one after the other, each with what it gives. An error ends nothing: the calls after it go
on where it leaves the stream. -/
def transcript (s : Lookahead) : List Call → List Reply
  | [] => []
  | c :: calls => (c, (s.call c).1) :: transcript (s.call c).2 calls

end Lookahead

/-- The call takes something from the stream: it is no peek, or it is one that fails. -/
def Reply.takes : Reply → Bool
  | (.next, _) => true
  | (.peek, .ok _) => false
  | (.peek, .error _) => true

/-- The call is one of `next`. -/
def Reply.isNext (reply : Reply) : Bool := reply.1 = .next

/-- An error that takes characters, so that the stream goes on behind them. -/
def LexError.takesCharacters : LexError → Bool
  | .unexpectedCharacter _ _ => false
  | .unterminatedString _ | .malformedNumber _ _ => true

/-- The call loses no error: it is no peek, or it gives a token or an error that takes nothing. -/
def Reply.isHarmless : Reply → Bool
  | (.peek, .error e) => !e.takesCharacters
  | _ => true

/-! ## Errors that stay -/

/-- Only an unexpected character fails without being taken. -/
theorem readFront_unexpected {cs : List Char} {error : Nat → LexError} {width position : Nat}
    (h : readFront cs = .failure error width)
    (hstays : (error position).takesCharacters = false) : width = 0 := by
  rcases readFront_failure h with ⟨c, -, hwidth⟩ | ⟨text, rfl⟩ | rfl
  · exact hwidth
  · cases hstays
  · cases hstays

namespace Scanner

variable {s after : Scanner} {e : LexError}

theorem next_unexpected (h : s.next = (.error e, after)) (hstays : e.takesCharacters = false) :
    after = s := by
  unfold next at h
  dsimp only at h
  split at h
  · cases h
  · rename_i error width hread
    cases h
    have hwidth := readFront_unexpected hread hstays
    rw [hread, Reading.width, hwidth]
    rfl

/-- **An unexpected character comes up again and again.** -/
theorem fetch_unexpected (h : s.fetch = (.error e, after)) (hstays : e.takesCharacters = false) :
    after.fetch = (.error e, after) := by
  have hagain {t : Scanner} (ht : t.next = (.error e, after)) :
      after.fetch = (.error e, after) := by
    obtain rfl := next_unexpected ht hstays
    exact fetch_error ht
  cases hnext : s.next with
  | mk result later =>
      cases result with
      | error e' =>
          rw [fetch_error hnext] at h
          cases h
          exact hagain hnext
      | ok token =>
          by_cases hblank : token.kind = .whitespace
          · -- white space is passed over on the way to the character
            rw [fetch_of_blank hnext hblank] at h
            exact hagain h
          · rw [fetch_of_visible hnext hblank] at h
            cases h

end Scanner

/-! ## One peek -/

namespace Lookahead

variable {s : Lookahead}

theorem next_of_none (scanner : Scanner) :
    next ⟨scanner, none⟩ = (scanner.fetch.1, ⟨scanner.fetch.2, none⟩) := rfl

theorem peek_of_fetch_ok {scanner after : Scanner} {token : Token}
    (h : scanner.fetch = (.ok token, after)) :
    peek ⟨scanner, none⟩ = (.ok token, ⟨after, some token⟩) := by
  unfold peek
  dsimp only
  rw [h]

theorem peek_of_fetch_error {scanner after : Scanner} {e : LexError}
    (h : scanner.fetch = (.error e, after)) :
    peek ⟨scanner, none⟩ = (.error e, ⟨after, none⟩) := by
  unfold peek
  dsimp only
  rw [h]

/-- A token that a peek gives is still there, and an error is left behind as `next` leaves it
behind. -/
theorem peek_cases (s : Lookahead) :
    (∃ token, s.peek.1 = .ok token ∧ s.next.1 = .ok token ∧ s.peek.2.next = s.next) ∨
      ∃ e, s.peek = (.error e, s.next.2) ∧ s.next.1 = .error e := by
  obtain ⟨scanner, held⟩ := s
  cases held with
  | some token => exact Or.inl ⟨token, rfl, rfl, rfl⟩
  | none =>
      cases hfetch : scanner.fetch with
      | mk result after =>
          rw [next_of_none, hfetch]
          cases result with
          | ok token =>
              rw [peek_of_fetch_ok hfetch]
              exact Or.inl ⟨token, rfl, rfl, rfl⟩
          | error e =>
              rw [peek_of_fetch_error hfetch]
              exact Or.inr ⟨e, rfl, rfl⟩

/-- A peek gives what a call of `next` in its place gives. -/
theorem peek_fst (s : Lookahead) : s.peek.1 = s.next.1 := by
  rcases peek_cases s with ⟨token, hpeek, hnext, -⟩ | ⟨e, hpeek, hnext⟩
  · rw [hpeek, hnext]
  · rw [hpeek, hnext]

/-- An error that takes nothing is what comes next once more. -/
theorem next_of_unexpected {e : LexError} (h : s.next.1 = .error e)
    (hstays : e.takesCharacters = false) : s.next.2.next = s.next := by
  obtain ⟨scanner, held⟩ := s
  cases held with
  | some token => cases h
  | none =>
      cases hfetch : scanner.fetch with
      | mk result after =>
          rw [next_of_none, hfetch] at h ⊢
          obtain rfl : result = .error e := h
          rw [next_of_none, Scanner.fetch_unexpected hfetch hstays]

/-- **A peek that loses no error goes unnoticed.** -/
theorem peek_of_harmless (h : Reply.isHarmless (.peek, s.peek.1) = true) :
    s.peek.2.next = s.next := by
  rcases peek_cases s with ⟨token, -, -, hkept⟩ | ⟨e, hpeek, hnext⟩
  · exact hkept
  · rw [hpeek] at h ⊢
    exact next_of_unexpected hnext (Bool.not_eq_true' _ ▸ h)

/-! ## Runs -/

/-- What so many calls of `next` give. -/
def upcoming (s : Lookahead) : Nat → List (Except LexError Token)
  | 0 => []
  | n + 1 => s.next.1 :: upcoming s.next.2 n

/-- Streams on which the same comes next go on alike. -/
theorem upcoming_congr {t : Lookahead} (h : s.next = t.next) (n : Nat) :
    s.upcoming n = t.upcoming n := by
  cases n with
  | zero => rfl
  | succ n => rw [upcoming, upcoming, h]

section Counted

/-! Let some replies count: those of `next` do, and a peek only if it fails; a peek that does not
count may give an error, but loses none. -/

variable {counts : Reply → Bool} {c : Call} {calls : List Call}

theorem call_of_counts (htoken : ∀ token, counts (.peek, .ok token) = false)
    (h : counts (c, (s.call c).1) = true) : s.call c = s.next := by
  cases c with
  | next => rfl
  | peek =>
      rcases peek_cases s with ⟨token, hpeek, -, -⟩ | ⟨e, hpeek, hnext⟩
      · have h : counts (.peek, s.peek.1) = true := h
        rw [hpeek, htoken] at h
        cases h
      · show s.peek = s.next
        rw [hpeek, ← hnext]

theorem next_of_not_counts (hnext : ∀ result, counts (.next, result) = true)
    (hskip : counts (c, (s.call c).1) = false → Reply.isHarmless (c, (s.call c).1) = true)
    (h : ¬counts (c, (s.call c).1) = true) : (s.call c).2.next = s.next := by
  cases c with
  | next => exact absurd (hnext _) h
  | peek => exact peek_of_harmless (hskip (Bool.not_eq_true _ ▸ h))

/-- **The replies that count are those of so many calls of `next`.** By induction on the calls: one
that counts does what `next` does, and any other goes unnoticed. -/
theorem map_filter_transcript (hnext : ∀ result, counts (.next, result) = true)
    (htoken : ∀ token, counts (.peek, .ok token) = false)
    (hskip : ∀ reply ∈ s.transcript calls, counts reply = false → reply.isHarmless = true) :
    ((s.transcript calls).filter counts).map (·.2) =
      s.upcoming ((s.transcript calls).filter counts).length := by
  induction calls generalizing s with
  | nil => rfl
  | cons c calls ih =>
      rw [transcript] at hskip ⊢
      obtain ⟨hfirst, hrest⟩ := List.forall_mem_cons.mp hskip
      by_cases hcount : counts (c, (s.call c).1) = true
      · rw [List.filter_cons_of_pos hcount, List.map_cons, ih hrest, List.length_cons, upcoming,
          call_of_counts htoken hcount]
      · rw [List.filter_cons_of_neg hcount, ih hrest]
        exact upcoming_congr (next_of_not_counts hnext hfirst hcount) _

/-- **The first reply that counts is what comes next.** -/
theorem snd_of_find? (hnext : ∀ result, counts (.next, result) = true)
    (htoken : ∀ token, counts (.peek, .ok token) = false)
    (hskip : ∀ reply ∈ s.transcript calls, counts reply = false → reply.isHarmless = true)
    {reply : Reply} (h : (s.transcript calls).find? counts = some reply) :
    reply.2 = s.next.1 := by
  induction calls generalizing s with
  | nil => cases h
  | cons c calls ih =>
      rw [transcript] at h hskip
      obtain ⟨hfirst, hrest⟩ := List.forall_mem_cons.mp hskip
      by_cases hcount : counts (c, (s.call c).1) = true
      · rw [List.find?_cons_of_pos hcount] at h
        cases h
        rw [call_of_counts htoken hcount]
      · rw [List.find?_cons_of_neg hcount] at h
        rw [ih hrest h, next_of_not_counts hnext hfirst hcount]

/-- Each peek that does not count gives what the first reply behind it gives that does. -/
def Foretells (counts : Reply → Bool) (replies : List Reply) : Prop :=
  ∀ front result back, replies = front ++ (.peek, result) :: back →
    counts (.peek, result) = false → ∀ reply ∈ back.find? counts, reply.2 = result

theorem foretells_transcript (hnext : ∀ result, counts (.next, result) = true)
    (htoken : ∀ token, counts (.peek, .ok token) = false)
    (hskip : ∀ reply ∈ s.transcript calls, counts reply = false → reply.isHarmless = true) :
    Foretells counts (s.transcript calls) := by
  intro front result back h hcount reply hreply
  induction calls generalizing s front with
  | nil => cases front <;> cases h
  | cons c calls ih =>
      rw [transcript] at h hskip
      obtain ⟨hfirst, hrest⟩ := List.forall_mem_cons.mp hskip
      cases front with
      | cons first front => exact ih hrest front (List.cons.inj h).2
      | nil =>
          obtain ⟨hpeek, rfl⟩ := List.cons.inj h
          cases hpeek
          rw [snd_of_find? hnext htoken hrest hreply,
            next_of_not_counts hnext hfirst (Bool.not_eq_true _ ▸ hcount)]
          exact (peek_fst s).symm

end Counted

/-- Calls of `next` alone. -/
theorem transcript_filter_next (s : Lookahead) (calls : List Call) :
    (s.transcript (calls.filter (· == .next))).map (·.2) = s.upcoming (calls.count .next) := by
  rw [List.filter_beq]
  generalize calls.count .next = n
  induction n generalizing s with
  | zero => rfl
  | succ n ih =>
      rw [List.replicate_succ, transcript, List.map_cons, ih, upcoming]
      rfl

theorem length_filter_isNext (s : Lookahead) (calls : List Call) :
    ((s.transcript calls).filter Reply.isNext).length = calls.count .next := by
  induction calls generalizing s with
  | nil => rfl
  | cons c calls ih =>
      rw [transcript]
      cases c with
      | next => rw [List.filter_cons_of_pos rfl, List.length_cons, ih, List.count_cons_self]
      | peek =>
          have hpeek (result : Except LexError Token) : ¬Reply.isNext (.peek, result) = true := by
            intro h
            cases h
          rw [List.filter_cons_of_neg (hpeek _), ih]
          exact (List.count_cons_of_ne (by decide)).symm

/-- The replies to calls of the stream of a text. -/
def ask (text : String) (calls : List Call) : List Reply := (ofText text).transcript calls

/-- **Looking ahead goes unnoticed until an error is lost.** In any run of calls a peek that fails
is a call like `next`: the replies of both are those of as many calls of `next`, and a peek that
gives a token foretells the next of them. So if no peek of the run meets an error that takes
characters, the calls of `next` give what they give with all peeks left out, and every peek foretells
the next of them. -/
theorem peek_transparency (text : String) (calls : List Call) :
    (((ask text calls).filter Reply.takes).map (·.2) =
        (ofText text).upcoming ((ask text calls).filter Reply.takes).length ∧
      Foretells Reply.takes (ask text calls)) ∧
    ((∀ reply ∈ ask text calls, reply.isHarmless = true) →
      ((ask text calls).filter Reply.isNext).map (·.2) =
        (ask text (calls.filter (· == .next))).map (·.2) ∧
      Foretells Reply.isNext (ask text calls)) := by
  constructor
  · have hskip : ∀ reply ∈ ask text calls, reply.takes = false → reply.isHarmless = true := by
      rintro ⟨c, result⟩ - htakes
      cases c with
      | next => rfl
      | peek =>
          cases result with
          | ok token => rfl
          | error e => cases htakes
    exact ⟨map_filter_transcript (fun _ => rfl) (fun _ => rfl) hskip,
      foretells_transcript (fun _ => rfl) (fun _ => rfl) hskip⟩
  · intro harmless
    have hskip : ∀ reply ∈ ask text calls, reply.isNext = false → reply.isHarmless = true :=
      fun reply hreply _ => harmless reply hreply
    refine ⟨?_, foretells_transcript (fun _ => rfl) (fun _ => rfl) hskip⟩
    have hnexts := map_filter_transcript (fun _ => rfl) (fun _ => rfl) hskip
    rw [length_filter_isNext] at hnexts
    exact hnexts.trans (transcript_filter_next _ calls).symm

/-- Calls that look at a token and then, twice, at a character that no token starts with. -/
def unexpectedTwice : List Call := [.peek, .next, .peek, .peek, .next]

theorem peek_transparency_unexpected :
    (∀ reply ∈ ask "a #" unexpectedTwice, reply.isHarmless = true) ∧
    ((ask "a #" unexpectedTwice).filter Reply.isNext).map (·.2) =
      [.ok ⟨.identifier, "a", 0⟩, .error (.unexpectedCharacter '#' 2)] ∧
    Foretells Reply.isNext (ask "a #" unexpectedTwice) := by
  have harmless : ∀ reply ∈ ask "a #" unexpectedTwice, reply.isHarmless = true := by
    rw [← List.all_eq_true]
    rfl
  obtain ⟨hnexts, hforetells⟩ := (peek_transparency "a #" unexpectedTwice).2 harmless
  refine ⟨harmless, ?_, hforetells⟩
  rw [hnexts]
  rfl

/-- A number without the digits that its point asks for. -/
def brokenNumber : LexError := .malformedNumber "1." 0

/-- **A peek that meets a malformed number loses it**, and the call of `next` after it gives the
token behind the number. -/
theorem peek_loses_error :
    ask "1. a" [.peek, .next] =
      [(.peek, .error brokenNumber), (.next, .ok ⟨.identifier, "a", 3⟩)] ∧
    ask "1. a" [.next] = [(.next, .error brokenNumber)] ∧
    ¬∀ (text : String) (calls : List Call),
      ((ask text calls).filter Reply.isNext).map (·.2) =
        (ask text (calls.filter (· == .next))).map (·.2) := by
  refine ⟨by rfl, by rfl, ?_⟩
  intro h
  have h := h "1. a" [.peek, .next]
  cases h

end Lookahead
end RecordQuery.Filter
