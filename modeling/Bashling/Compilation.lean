import Bashling.Bash
import Bashling.Parser.Statement

/-!
# Compilation

A program is one statement, read from a text and turned into Bash; what follows the statement in the
text is not looked at. Between reading and writing the tree passes a stage that may improve it, and
today leaves it as it is. That stage and the last one can each be replaced by a constant, which
takes the place of whatever does not count.
-/

namespace Bashling

/-- The stream of tokens of a text. -/
def tokenStream (text : List Char) : Stream Lexer :=
  .ofSource (Lexer.ofText text)

/-- The first statement of a text. -/
def parse (text : List Char) : Except Failure Node :=
  (tokenStream text).parse.1

/-- The Bash text of a program. -/
def compile (text : List Char) : Except Failure String := do
  let node ← parse text
  node.toBash

/-- How a program is compiled, where each stage may be replaced. -/
structure Compilation where
  /-- What has been read. -/
  tree : Except Failure Value
  /-- A constant in place of the stage that improves the tree. -/
  optimizer : Option Value
  /-- A constant in place of the stage that writes Bash. -/
  generator : Option Value

namespace Compilation

def optimize (c : Compilation) (tree : Value) : Value :=
  match c.optimizer with
  | none => tree
  | some constant => tree.orElse constant

def generate (c : Compilation) (tree : Value) : Except Failure Value :=
  match c.generator with
  | none => tree.toBash.map .text
  | some constant => .ok (tree.orElse constant)

def run (c : Compilation) : Except Failure Value := do
  let tree ← c.tree
  c.generate (c.optimize tree)

end Compilation
end Bashling
