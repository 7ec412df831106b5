import Bashling.Lexer

/-!
# Token streams

A parser reads a stream: a source of tokens with one token of lookahead. Parsing ends because a
stream has a size that taking a token makes smaller. A list of tokens shrinks with every token. A
lexer can hand out the end of its text any number of times, so for it only the first end and the
tokens before it count; no rule of the grammar goes on after an end, so that is enough.
-/

namespace Bashling

/-- A source of tokens that has a size. -/
class TokenSource (σ : Type) extends Source σ Token where
  size : σ → Nat
  size_next_le : ∀ s : σ, size (next s).2 ≤ size s
  size_next_lt : ∀ (s : σ) (token : Token), (next s).1 = .ok token →
    isOver s = false ∨ token.isEof = false → size (next s).2 < size s

instance : TokenSource Lexer where
  size := Lexer.size
  size_next_le := Lexer.size_next_le
  size_next_lt := Lexer.size_next_lt

private theorem Cursor.length_rest_next_le {α : Type} (c : Cursor α) :
    c.next.2.rest.length ≤ c.rest.length := by
  unfold Cursor.next
  split <;> simp_all

private theorem Cursor.length_rest_next_lt {α : Type} (c : Cursor α) (item : α)
    (given : c.next.1 = .ok item) : c.next.2.rest.length < c.rest.length := by
  unfold Cursor.next at given ⊢
  split at given
  · cases given
  next comes => simp [comes]

instance : TokenSource (Cursor Token) where
  size c := c.rest.length
  size_next_le := Cursor.length_rest_next_le
  size_next_lt c token given _ := c.length_rest_next_lt token given

/-- Tokens with one token of lookahead. -/
abbrev Stream (σ : Type) := Lookahead σ Token

namespace Lookahead

variable {σ : Type} [TokenSource σ]

def size (s : Stream σ) : Nat :=
  TokenSource.size s.source + s.held.isSome.toNat

theorem size_peek_le (s : Stream σ) : s.peek.2.size ≤ s.size := by
  unfold peek
  split
  · exact Nat.le_refl _
  next empty =>
    split
    · exact Nat.le_refl _
    next opened =>
      split
      next token source step =>
        have less := TokenSource.size_next_lt s.source token (by rw [step])
          (.inl (by simpa using opened))
        rw [step] at less
        simpa [size, empty] using Nat.succ_le_of_lt less
      next failure source step =>
        have within := TokenSource.size_next_le s.source
        rw [step] at within
        simpa [size, empty] using within

theorem held_peek (s : Stream σ) (token : Token) (seen : s.peek.1 = .ok token) :
    s.peek.2.held = some token := by
  unfold peek at seen ⊢
  split at seen
  next held => cases seen; simpa using held
  next empty =>
    split at seen
    · cases seen
    next opened =>
      rw [if_neg opened]
      split at seen
      · cases seen; rfl
      · cases seen

theorem size_release_peek_lt (s : Stream σ) (token : Token) (seen : s.peek.1 = .ok token) :
    s.peek.2.release.size < s.size := by
  refine Nat.lt_of_lt_of_le ?_ s.size_peek_le
  simp [release, size, s.held_peek token seen]

theorem size_next_lt (s : Stream σ) (token : Token) (taken : s.next.1 = .ok token)
    (counted : token.isEof = false) : s.next.2.size < s.size := by
  unfold next at taken ⊢
  split at taken
  next held => simp [size, held]
  next empty =>
    have less := TokenSource.size_next_lt s.source token taken (.inr counted)
    simpa [size, empty] using less

/-- What a look at the next token shows: the token, the stream that holds it and the stream after
it, or why there is nothing to see. -/
inductive Glance (σ : Type) [TokenSource σ] (bound : Nat) where
  | seen (token : Token) (kept rest : Stream σ) (within : kept.size ≤ bound)
      (less : rest.size < bound)
  | failed (failure : Failure) (rest : Stream σ)

def glance (s : Stream σ) : Glance σ s.size :=
  match step : s.peek with
  | (.ok token, kept) =>
    .seen token kept kept.release
      (by have within := s.size_peek_le; rwa [step] at within)
      (by have less := s.size_release_peek_lt token (by rw [step]); rwa [step] at less)
  | (.error failure, rest) => .failed failure rest

end Lookahead
end Bashling
