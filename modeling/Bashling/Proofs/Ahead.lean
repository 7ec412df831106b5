import Bashling.Parser.Stream

/-!
# What a stream still shows

A reader of a stream sees tokens one after the other and cannot tell whether the next one is already
held. `ahead` lists the tokens that can still be seen and taken in turn, and `ending` is the failure
that is met where they end. Looking at a token changes neither of them, and taking it removes it
from the front. So what a parser does is stated on the list `ahead`, for every kind of source.

For a list of tokens `ahead` is what is left of it. For a lexer it is what `Lexer.tokens` gives,
and the ending is the failure that stopped the lexer, if any did.
-/

namespace Bashling

namespace Lookahead

variable {σ : Type} [TokenSource σ]

/-- The tokens that can be seen and taken one after the other. -/
def ahead (s : Stream σ) : List Token :=
  match step : s.peek with
  | (.ok token, kept) =>
    have : kept.release.size < s.size := by
      have less := s.size_release_peek_lt token (by rw [step])
      rwa [step] at less
    token :: kept.release.ahead
  | (.error _, _) => []
termination_by s.size

/-- The failure that is met where the tokens ahead end. -/
def ending (s : Stream σ) : Failure :=
  match step : s.peek with
  | (.ok token, kept) =>
    have : kept.release.size < s.size := by
      have less := s.size_release_peek_lt token (by rw [step])
      rwa [step] at less
    kept.release.ending
  | (.error failure, _) => failure
termination_by s.size

variable {s kept rest : Stream σ} {token : Token} {failure : Failure}

private theorem ahead_of_peek_ok (seen : s.peek = (.ok token, kept)) :
    s.ahead = token :: kept.release.ahead := by
  rw [ahead]
  split
  next step =>
    rw [seen] at step
    cases step
    rfl
  next step =>
    rw [seen] at step
    cases step

theorem ahead_of_peek_error (failed : s.peek = (.error failure, rest)) : s.ahead = [] := by
  rw [ahead]
  split
  next step =>
    rw [failed] at step
    cases step
  · rfl

private theorem ending_of_peek_ok (seen : s.peek = (.ok token, kept)) :
    s.ending = kept.release.ending := by
  rw [ending]
  split
  next step =>
    rw [seen] at step
    cases step
    rfl
  next step =>
    rw [seen] at step
    cases step

theorem ending_of_peek_error (failed : s.peek = (.error failure, rest)) :
    s.ending = failure := by
  rw [ending]
  split
  next step =>
    rw [failed] at step
    cases step
  next step =>
    rw [failed] at step
    cases step
    rfl

private theorem peek_of_held (held : s.held = some token) : s.peek = (.ok token, s) := by
  rw [peek, held]

private theorem isOver_of_held (held : s.held = some token) : s.isOver = false := by
  rw [isOver, held]
  rfl

theorem nothing_ahead_of_over (closed : s.isOver = true) :
    s.ahead = [] ∧ s.ending = .nothingToPeek := by
  obtain ⟨empty, finished⟩ : s.held = none ∧ Source.isOver s.source = true := by
    simpa [isOver] using closed
  have failed : s.peek = (.error .nothingToPeek, s) := by
    rw [peek, empty, if_pos finished]
  exact ⟨ahead_of_peek_error failed, ending_of_peek_error failed⟩

/-- Unless the stream is over, taking a token is the same as looking at it and letting it go. -/
private theorem next_of_open (s : Stream σ) (opened : s.isOver = false) :
    s.next = (s.peek.1, s.peek.2.release) := by
  unfold next peek
  split
  · rfl
  next empty =>
    -- Nothing is held, so the stream is over exactly if its source is, and both ask the source.
    have running : Source.isOver s.source = false := by simpa [isOver, empty] using opened
    rw [running]
    simp only [Bool.false_eq_true, if_false]
    split <;> simp_all [release]

/-- What a look at a stream that shows a token tells about the streams with and without it. -/
structure Shows (s : Stream σ) (token : Token) (kept rest : Stream σ) : Prop where
  ahead : s.ahead = token :: rest.ahead
  ending : rest.ending = s.ending
  keptAhead : kept.ahead = s.ahead
  keptEnding : kept.ending = s.ending
  keptOpen : kept.isOver = false

private theorem shows_of_peek (seen : s.peek = (.ok token, kept)) :
    s.Shows token kept kept.release := by
  have held : kept.held = some token := by
    have holds := s.held_peek token (by rw [seen])
    rwa [seen] at holds
  -- A second look finds the token that the first one left held.
  have again := peek_of_held held
  refine ⟨ahead_of_peek_ok seen, (ending_of_peek_ok seen).symm, ?_, ?_, isOver_of_held held⟩
  · rw [ahead_of_peek_ok again, ahead_of_peek_ok seen]
  · rw [ending_of_peek_ok again, ending_of_peek_ok seen]

theorem shows_of_glance {within : kept.size ≤ s.size} {less : rest.size < s.size}
    (seen : s.glance = .seen token kept rest within less) : s.Shows token kept rest := by
  unfold glance at seen
  split at seen
  next step =>
    cases seen
    exact shows_of_peek step
  · cases seen

theorem peek_of_glance_failed (failed : s.glance = .failed failure rest) :
    s.peek = (.error failure, rest) := by
  unfold glance at failed
  split at failed
  · cases failed
  next step =>
    cases failed
    exact step

theorem nothing_ahead_of_glance (failed : s.glance = .failed failure rest) :
    s.ahead = [] ∧ failure = s.ending :=
  have missed := peek_of_glance_failed failed
  ⟨ahead_of_peek_error missed, (ending_of_peek_error missed).symm⟩

theorem ahead_of_next (opened : s.isOver = false) (taken : s.next = (.ok token, rest)) :
    s.ahead = token :: rest.ahead ∧ rest.ending = s.ending := by
  have seen : s.peek = (.ok token, s.peek.2) ∧ s.peek.2.release = rest := by
    rw [s.next_of_open opened] at taken
    obtain ⟨first, after⟩ := Prod.mk.inj taken
    exact ⟨by rw [← first], after⟩
  have shown := shows_of_peek seen.1
  rw [seen.2] at shown
  exact ⟨shown.ahead, shown.ending⟩

theorem nothing_ahead_of_next (opened : s.isOver = false)
    (missed : s.next = (.error failure, rest)) : s.ahead = [] ∧ failure = s.ending := by
  have failed : s.peek = (.error failure, s.peek.2) := by
    rw [s.next_of_open opened] at missed
    rw [← (Prod.mk.inj missed).1]
  exact ⟨ahead_of_peek_error failed, (ending_of_peek_error failed).symm⟩

/-- Unless a stream is over, the token that can be taken is the first one ahead. -/
theorem next_eq_ok_iff (opened : s.isOver = false) :
    s.next.1 = .ok token ↔ ∃ later, s.ahead = token :: later := by
  cases result : s.next with
  | mk outcome rest =>
    cases outcome with
    | ok token' =>
      obtain ⟨ahead, -⟩ := ahead_of_next opened result
      simp [ahead]
    | error failure =>
      obtain ⟨nothing, -⟩ := nothing_ahead_of_next opened result
      simp [nothing]

end Lookahead

/-! ### Lists of tokens -/

namespace Cursor

open Lookahead

theorem ahead_ofSource (c : Cursor Token) :
    (ofSource c : Stream (Cursor Token)).ahead = c.rest ∧
      (ofSource c : Stream (Cursor Token)).ending = .nothingToPeek := by
  obtain ⟨taken, items⟩ := c
  induction items generalizing taken with
  | nil =>
    have failed : (ofSource ⟨taken, []⟩ : Stream (Cursor Token)).peek =
        (.error .nothingToPeek, ofSource ⟨taken, []⟩) := rfl
    exact ⟨ahead_of_peek_error failed, ending_of_peek_error failed⟩
  | cons item items ih =>
    have seen : (ofSource ⟨taken, item :: items⟩ : Stream (Cursor Token)).peek =
        (.ok item, ⟨⟨taken + 1, items⟩, some item⟩) := rfl
    obtain ⟨ahead, ending⟩ := ih (taken + 1)
    rw [ahead_of_peek_ok seen, ending_of_peek_ok seen]
    exact ⟨congrArg (item :: ·) ahead, ending⟩

/-- A stream over a list shows the token it holds and then what is left of the list. -/
theorem ahead_stream (s : Stream (Cursor Token)) :
    s.ahead = s.held.toList ++ s.source.rest ∧ s.ending = .nothingToPeek := by
  obtain ⟨source, held⟩ := s
  obtain ⟨ahead, ending⟩ := ahead_ofSource source
  cases held with
  | none => exact ⟨ahead, ending⟩
  | some token =>
    have seen : (⟨source, some token⟩ : Stream (Cursor Token)).peek =
        (.ok token, ⟨source, some token⟩) := rfl
    rw [ahead_of_peek_ok seen, ending_of_peek_ok seen]
    exact ⟨congrArg (token :: ·) ahead, ending⟩

end Cursor

/-! ### Texts -/

namespace Lexer

open Lookahead

/-- A stream over a lexer shows the tokens of the text. It ends where the lexer fails, or else right
behind the end of the text. -/
theorem ahead_ofSource (l : Lexer) :
    (ofSource l : Stream Lexer).ahead = l.tokens.1 ∧
      (ofSource l : Stream Lexer).ending = l.tokens.2.getD .nothingToPeek := by
  induction l using Lexer.tokens.induct with
  | case1 l ended =>
    have failed : (ofSource l : Stream Lexer).peek = (.error .nothingToPeek, ofSource l) := by
      simp [peek, ofSource, Source.isOver, ended]
    rw [ahead_of_peek_error failed, ending_of_peek_error failed, tokens_of_over ended]
    exact ⟨rfl, rfl⟩
  | case2 l running failure after step =>
    have failed : (ofSource l : Stream Lexer).peek = (.error failure, ofSource after) := by
      simp [peek, ofSource, Source.isOver, Source.next, running, step]
    rw [ahead_of_peek_error failed, ending_of_peek_error failed,
      tokens_of_failed (by simpa using running) step]
    exact ⟨rfl, rfl⟩
  | case3 l running token after step _ later failure rest ih =>
    have seen : (ofSource l : Stream Lexer).peek = (.ok token, ⟨after, some token⟩) := by
      simp [peek, ofSource, Source.isOver, Source.next, running, step]
    rw [ahead_of_peek_ok seen, ending_of_peek_ok seen,
      tokens_of_token (by simpa using running) step]
    -- Letting go of the held token leaves the stream over the lexer behind it.
    exact ⟨congrArg (token :: ·) ih.1, ih.2⟩

end Lexer
end Bashling
