import Bashling.Printed

/-!
# Things to show and compare

A user can be shown a value or a failure. Two such things are equal when they are of one kind with
equal parts.
-/

namespace Bashling

mutual

/-- Equality of values; values of different kinds differ. -/
def Value.equal : Value → Value → Bool
  | .absent, .absent => true
  | .flag value, .flag value' => value == value'
  | .integer value, .integer value' => value == value'
  | .text value, .text value' => value == value'
  | .list items, .list items' => Value.equalAll items items'
  | .token t, .token t' => t == t'
  | .node n, .node n' => n == n'
  | _, _ => false

def Value.equalAll : List Value → List Value → Bool
  | [], [] => true
  | value :: rest, value' :: rest' => value.equal value' && Value.equalAll rest rest'
  | _, _ => false

end

inductive Subject where
  | value (value : Value)
  | failure (failure : Failure)

namespace Subject

def form : Subject → Form
  | .value v => v.form
  | .failure f => f.form

/-- What a subject says in words: a text itself, a failure its message, and any other value is
shown. -/
def words : Subject → String
  | .value (.text text) => text
  | .value v => v.form.line
  | .failure f => f.message

def equal : Subject → Subject → Bool
  | .value v, .value v' => v.equal v'
  | .failure f, .failure f' => f == f'
  | _, _ => false

end Subject
end Bashling
