import Bashling.Parser.Expression
import Bashling.Proofs.Ahead

/-!
# What a reply ensures

A parsing step is described by two conditions: one on what it builds and the stream it leaves, one
on its failure and the stream where that arose. The conditions of a sequence of steps follow from
those of its parts, so the description of a rule of the grammar is put together along its
definition.
-/

namespace Bashling

namespace Reply

variable {σ : Type} [TokenSource σ] {α β : Type} {bound wider : Nat}

def Ensures (reply : Reply σ α bound) (done : α → Stream σ → Prop)
    (failed : Failure → Stream σ → Prop) : Prop :=
  match reply with
  | .done value rest _ => done value rest
  | .failed failure rest => failed failure rest

variable {done done' : α → Stream σ → Prop} {failed failed' : Failure → Stream σ → Prop}
  {reply : Reply σ α bound}

theorem Ensures.mono (ensured : reply.Ensures done failed)
    (onDone : ∀ value rest, done value rest → done' value rest)
    (onFailed : ∀ failure rest, failed failure rest → failed' failure rest) :
    reply.Ensures done' failed' := by
  cases reply with
  | done value rest less => exact onDone value rest ensured
  | failed failure rest => exact onFailed failure rest ensured

/-- A sequence of steps ensures what the second one does wherever the first one leads to. -/
theorem Ensures.andThen {later : β → Stream σ → Prop}
    {proceed : α → (rest : Stream σ) → rest.size < bound → Reply σ β bound}
    (first : reply.Ensures done failed)
    (second : ∀ value rest less, done value rest → (proceed value rest less).Ensures later failed) :
    (reply.andThen proceed).Ensures later failed := by
  cases reply with
  | done value rest less => exact second value rest less first
  | failed failure rest => exact first

@[simp] theorem ensures_map {later : β → Stream σ → Prop} (f : α → β) :
    (reply.map f).Ensures later failed ↔
      reply.Ensures (fun value rest => later (f value) rest) failed := by
  cases reply <;> rfl

@[simp] theorem ensures_widen (within : bound ≤ wider) :
    (reply.widen within).Ensures done failed ↔ reply.Ensures done failed := by
  cases reply <;> rfl

@[simp] theorem ensures_onRest {rest : Stream σ} {reply : Reply σ α rest.size}
    (less : rest.size < bound) :
    (reply.onRest less).Ensures done failed ↔ reply.Ensures done failed :=
  ensures_widen _

@[simp] theorem ensures_loosen : reply.loosen.Ensures done failed ↔ reply.Ensures done failed :=
  ensures_widen _

@[simp] theorem ensures_unmoved (value : α) (kept : Stream σ) (within : kept.size ≤ bound) :
    (Reply.unmoved value kept within).Ensures done failed ↔ done value kept :=
  Iff.rfl

theorem Ensures.of_outcome_ok {value : α} {rest : Stream σ}
    (ensured : reply.Ensures done failed) (built : reply.outcome = (.ok value, rest)) :
    done value rest := by
  cases reply with
  | done value' rest' less => cases built; exact ensured
  | failed failure rest' => cases built

theorem Ensures.of_outcome_error {failure : Failure} {rest : Stream σ}
    (ensured : reply.Ensures done failed) (refused : reply.outcome = (.error failure, rest)) :
    failed failure rest := by
  cases reply with
  | done value rest' less => cases refused
  | failed failure' rest' => cases refused; exact ensured

end Reply

namespace Lookahead

variable {σ : Type} [TokenSource σ] {α : Type}

/-- The ways in which an expected token can fail to be there: nothing is ahead, or another token. -/
def Misses (s : Stream σ) (wanted : Token → Option α) (refusal : Token → Failure)
    (failure : Failure) (rest : Stream σ) : Prop :=
  (s.ahead = [] ∧ failure = s.ending) ∨
    ∃ token later, s.ahead = token :: later ∧ wanted token = none ∧ failure = refusal token ∧
      rest.ahead = s.ahead

theorem ensures_expect (s : Stream σ) (wanted : Token → Option α) (refusal : Token → Failure) :
    (s.expect wanted refusal).Ensures
      (fun value rest => ∃ token, wanted token = some value ∧ s.ahead = token :: rest.ahead ∧
        rest.ending = s.ending)
      (s.Misses wanted refusal) := by
  unfold expect
  split
  next failure rest missed => exact .inl (nothing_ahead_of_glance missed)
  next token kept rest within less seen =>
    have shown := shows_of_glance seen
    split
    next value found => exact ⟨token, found, shown.ahead, shown.ending⟩
    next other => exact .inr ⟨token, rest.ahead, shown.ahead, other, rfl, shown.keptAhead⟩

end Lookahead
end Bashling
