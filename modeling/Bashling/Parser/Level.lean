import Bashling.Operator

/-!
# Levels of precedence

Expressions are read on nine levels, from the loosest operators to the atoms. On a chain level an
operand of the next tighter level is followed by operators of the level, each with an operand after
it. What that later operand is decides how a chain groups: for products it is the tighter level, so
they group to the left; for sums and the boolean operators it is the level itself, so they group to
the right. Comparisons do not repeat. On a sign level operators stand in front of their operand.
-/

namespace Bashling

inductive Level where
  | disjunction
  | conjunction
  | negation
  | comparison
  | sum
  | product
  | sign
  | power
  | atom
  deriving DecidableEq, Repr

/-- How the expressions of a level are written. -/
inductive Shape where
  | chain (first later : Level) (operators : List Operator) (repeats : Bool)
  | signed (operand : Level) (operators : List Operator)
  | atom
  deriving DecidableEq, Repr

namespace Level

def shape : Level → Shape
  | .disjunction => .chain .conjunction .disjunction [.or] true
  | .conjunction => .chain .negation .conjunction [.and] true
  | .negation => .signed .comparison [.not]
  | .comparison =>
    .chain .sum .sum [.equals, .notEquals, .less, .lessEqual, .more, .moreEqual] false
  | .sum => .chain .product .sum [.plus, .minus] true
  | .product => .chain .sign .sign [.star, .slash, .percent] true
  | .sign => .signed .power [.plus, .minus]
  | .power => .chain .atom .sign [.power] true
  | .atom => .atom

/-- The number of levels that bind tighter. -/
def rank : Level → Nat
  | .disjunction => 8
  | .conjunction => 7
  | .negation => 6
  | .comparison => 5
  | .sum => 4
  | .product => 3
  | .sign => 2
  | .power => 1
  | .atom => 0

theorem rank_lt (level : Level) : level.rank < 9 := by
  cases level <;> decide

theorem rank_lt_of_chain {level first later : Level} {operators : List Operator} {repeats : Bool}
    (shaped : level.shape = .chain first later operators repeats) : first.rank < level.rank := by
  cases level <;> cases shaped <;> decide

theorem rank_lt_of_signed {level operand : Level} {operators : List Operator}
    (shaped : level.shape = .signed operand operators) : operand.rank < level.rank := by
  cases level <;> cases shaped <;> decide

end Level
end Bashling
