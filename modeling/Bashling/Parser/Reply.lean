import Bashling.Parser.Stream

/-!
# Replies of a parser

A parsing step either builds something and leaves a stream smaller than its bound, or fails and
leaves the stream where it failed. The bound is the size of the stream it started from, or one more
for a step that may take nothing. Keeping it in the type is what lets the rules of the grammar call
each other without an extra argument that runs out.
-/

namespace Bashling

/-- The result of a parsing step that leaves less than `bound` when it succeeds. -/
inductive Reply (σ : Type) [TokenSource σ] (α : Type) (bound : Nat) where
  | done (value : α) (rest : Stream σ) (less : rest.size < bound)
  | failed (failure : Failure) (rest : Stream σ)

namespace Reply

variable {σ : Type} [TokenSource σ] {α β : Type} {bound wider : Nat}

/-- Goes on with what was built and the stream that is left. -/
def andThen (reply : Reply σ α bound)
    (proceed : α → (rest : Stream σ) → rest.size < bound → Reply σ β bound) :
    Reply σ β bound :=
  match reply with
  | .done value rest less => proceed value rest less
  | .failed failure rest => .failed failure rest

def map (f : α → β) (reply : Reply σ α bound) : Reply σ β bound :=
  match reply with
  | .done value rest less => .done (f value) rest less
  | .failed failure rest => .failed failure rest

/-- The same reply under a larger bound. -/
def widen (reply : Reply σ α bound) (within : bound ≤ wider) : Reply σ α wider :=
  match reply with
  | .done value rest less => .done value rest (Nat.lt_of_lt_of_le less within)
  | .failed failure rest => .failed failure rest

/-- A reply about what is left of a larger stream. -/
def onRest {rest : Stream σ} (reply : Reply σ α rest.size) (less : rest.size < bound) :
    Reply σ α bound :=
  reply.widen (Nat.le_of_lt less)

/-- A reply of a step that takes something, where one may take nothing. -/
def loosen (reply : Reply σ α bound) : Reply σ α (bound + 1) :=
  reply.widen (Nat.le_succ bound)

/-- Success without taking a token. -/
def unmoved (value : α) (kept : Stream σ) (within : kept.size ≤ bound) : Reply σ α (bound + 1) :=
  .done value kept (Nat.lt_succ_of_le within)

/-- A reply without its bound. -/
def outcome : Reply σ α bound → Except Failure α × Stream σ
  | .done value rest _ => (.ok value, rest)
  | .failed failure rest => (.error failure, rest)

end Reply

namespace Lookahead

variable {σ : Type} [TokenSource σ] {α : Type}

/-- Takes the next token if it is what is wanted, else fails and leaves it. -/
def expect (s : Stream σ) (wanted : Token → Option α) (refusal : Token → Failure) :
    Reply σ α s.size :=
  match s.glance with
  | .failed failure rest => .failed failure rest
  | .seen token kept rest _ less =>
    match wanted token with
    | some value => .done value rest less
    | none => .failed (refusal token) kept

end Lookahead
end Bashling
