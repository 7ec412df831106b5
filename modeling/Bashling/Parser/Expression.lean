import Bashling.Parser.Level
import Bashling.Parser.Reply

/-!
# Parsing expressions

One function reads the expressions of every level, as the shape of the level says, and a second one
goes on with a chain whose first operand has been read. Parentheses enclose a sum: comparisons and
boolean operators do not stand inside them. The rank of the level and the size of the stream
together decrease with every call.

Calls are nested as deep as the expression is, and there is no limit to that. All that is said of
parsing at every depth assumes such unbounded recursion.
-/

namespace Bashling.Parser

variable {σ : Type} [TokenSource σ]

/-- Takes an operator that must come next. -/
def expectOperator (s : Stream σ) (operator : Operator) (refusal : Token → Failure) :
    Reply σ (Located Operator) s.size :=
  s.expect (·.operator? [operator]) refusal

mutual

/-- Reads an expression of a level. -/
def expression (level : Level) (s : Stream σ) : Reply σ Node s.size :=
  match shaped : level.shape with
  | .chain first later operators repeats =>
    (expression first s).andThen fun left rest less =>
      (chain later operators repeats left rest).widen less
  | .signed operand operators =>
    match s.glance with
    | .failed failure rest => .failed failure rest
    | .seen token kept rest within less =>
      match token.operator? operators with
      | some operator =>
        ((expression level rest).map (.unary operator)).onRest less
      | none => (expression operand kept).widen within
  | .atom =>
    match step : s.next with
    | (.error failure, rest) => .failed failure rest
    | (.ok token, rest) =>
      have taken : token.isEof = false → rest.size < s.size := fun counted => by
        have less := s.size_next_lt token (by rw [step]) counted
        rwa [step] at less
      match token with
      | ⟨start, stop, .number value⟩ => .done (.number ⟨start, stop, value⟩) rest (taken rfl)
      | ⟨start, stop, .identifier name⟩ => .done (.identifier ⟨start, stop, name⟩) rest (taken rfl)
      | ⟨start, stop, .operator .leftParen⟩ =>
        ((expression .sum rest).andThen fun inner closing less =>
          ((expectOperator closing .rightParen
              (.unclosedParen ⟨start, stop, .operator .leftParen⟩ inner .rightParen)).map
            fun _ => inner).onRest less).onRest (taken rfl)
      | token => .failed (.unexpectedToken token) rest
termination_by 9 * s.size + level.rank
decreasing_by
  · have := Level.rank_lt_of_chain shaped; omega
  · omega
  · omega
  · have := Level.rank_lt_of_signed shaped; omega
  · have := taken rfl; simp only [Level.rank]; omega

/-- Goes on with a chain after an operand: as long as one of the operators comes next, or at most
once, it and a later operand join what was read so far. -/
def chain (later : Level) (operators : List Operator) (repeats : Bool) (left : Node)
    (s : Stream σ) : Reply σ Node (s.size + 1) :=
  match s.glance with
  | .failed failure rest => .failed failure rest
  | .seen token kept rest within less =>
    match token.operator? operators with
    | none => .unmoved left kept within
    | some operator =>
      (((expression later rest).andThen fun right after shorter =>
        if repeats then
          (chain later operators repeats (.binary left operator right) after).widen shorter
        else .done (.binary left operator right) after shorter).onRest less).loosen
termination_by 9 * s.size
decreasing_by
  · have := later.rank_lt; omega
  · omega

end

end Bashling.Parser
