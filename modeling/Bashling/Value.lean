import Bashling.Node

/-!
# Values between the stages

The stages of a compilation can be replaced by constants, and a constant may be anything: nothing
at all, a truth value, an integer, a text, a list, a token or a tree. What passes from stage to
stage is therefore such a value. A value *counts* unless it is nothing, false, zero or empty.
-/

namespace Bashling

inductive Value where
  | absent
  | flag (value : Bool)
  | integer (value : Int)
  | text (value : String)
  | list (items : List Value)
  | token (token : Token)
  | node (node : Node)
  deriving Repr, Inhabited

namespace Value

def counts : Value → Bool
  | .absent => false
  | .flag value => value
  | .integer value => value != 0
  | .text value => value != ""
  | .list items => !items.isEmpty
  | .token _ => true
  | .node _ => true

/-- The first value if it counts, else the second. -/
def orElse (first second : Value) : Value :=
  if first.counts then first else second

end Value
end Bashling
