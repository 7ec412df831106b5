import Bashling.Token

/-!
# Syntax trees

The trees of expressions, statements and function declarations, with the tokens they were built
from. The parts of a statement that have no meaning alone are trees too: an assignment without its
`let`, a declaration without its `func`, a parameter, a parameter list and a block. Where a tree has
a part, that part may be any tree. A `let` need not hold an assignment, for instance, though the
parser builds none that does not.
-/

namespace Bashling

/-- A parameter of a function and the name of its type. -/
structure Parameter where
  name : Located String
  type : Located String
  deriving DecidableEq, BEq, Repr

inductive Node where
  | bare
  | identifier (name : Located String)
  | number (literal : Located Binary64)
  | string (literal : Located String)
  | unary (operator : Located Operator) (operand : Node)
  | binary (left : Node) (operator : Located Operator) (right : Node)
  | parameter (parameter : Parameter)
  | parameters (items : List Node)
  | block (statements : List Node)
  | assignment (target : Located String) (value : Node)
  | letStatement (keyword : Located Keyword) (assigned : Node)
  | declaration (name : Located String) (parameters body : Node)
  | funcStatement (keyword : Located Keyword) (declared : Node)
  deriving Repr, Inhabited

mutual

/-- Two trees are equal when they have the same shape and equal tokens; since a number that is not
one equals nothing, a tree that holds it differs even from itself. -/
def Node.equal : Node → Node → Bool
  | .bare, .bare => true
  | .identifier name, .identifier name' => name == name'
  | .number literal, .number literal' => literal == literal'
  | .string literal, .string literal' => literal == literal'
  | .unary operator operand, .unary operator' operand' =>
    operator == operator' && operand.equal operand'
  | .binary left operator right, .binary left' operator' right' =>
    operator == operator' && left.equal left' && right.equal right'
  | .parameter item, .parameter item' => item == item'
  | .parameters items, .parameters items' => Node.equalAll items items'
  | .block statements, .block statements' => Node.equalAll statements statements'
  | .assignment target value, .assignment target' value' =>
    target == target' && value.equal value'
  | .letStatement keyword assigned, .letStatement keyword' assigned' =>
    keyword == keyword' && assigned.equal assigned'
  | .declaration name items body, .declaration name' items' body' =>
    name == name' && items.equal items' && body.equal body'
  | .funcStatement keyword declared, .funcStatement keyword' declared' =>
    keyword == keyword' && declared.equal declared'
  | _, _ => false

def Node.equalAll : List Node → List Node → Bool
  | [], [] => true
  | node :: rest, node' :: rest' => node.equal node' && Node.equalAll rest rest'
  | _, _ => false

end

instance : BEq Node := ⟨Node.equal⟩

/-- The parts of a tree by which others may ask for it. -/
inductive Part where
  | name
  | value
  | parameters
  | statements
  deriving DecidableEq, Repr

namespace Node

/-- The name that a tree is, or that it starts with because it introduces it. -/
def name? : Node → Option (Located String)
  | .identifier name => some name
  | .parameter item => some item.name
  | .assignment target _ => some target
  | .declaration name _ _ => some name
  | _ => none

end Node

end Bashling
